import Workbench.Proofs.Variables

/-! One variable more.

A run with another variable in it goes on as the run without it, as long as the name of that
variable is part of no other name. The two stores agree on all other variables, and the values of
expressions depend on those only.
-/

set_option autoImplicit false

namespace Workbench

namespace Arithmetic

theorem ofDigitChars_lt {digits : List Char}
    (digit : ∀ c ∈ digits, c.isDigit = true) (start : Nat) :
    Nat.ofDigitChars 10 digits start < (start + 1) * Number.tenTo digits.length := by
  induction digits generalizing start with
  | nil => exact Nat.lt_of_lt_of_eq (Nat.lt_succ_self start) (Nat.mul_one _).symm
  | cons c rest ih =>
    obtain ⟨first, digit⟩ := List.forall_mem_cons.1 digit
    have range : 48 ≤ c.toNat ∧ c.toNat ≤ 57 := by
      simpa [Char.isDigit, UInt32.le_iff_toNat_le] using first
    have next : 10 * start + (c.toNat - '0'.toNat) + 1 ≤ (start + 1) * 10 := by
      have zero : '0'.toNat = 48 := rfl
      omega
    have more : Number.tenTo (c :: rest).length = Number.tenTo rest.length * 10 := rfl
    calc Nat.ofDigitChars 10 (c :: rest) start =
          Nat.ofDigitChars 10 rest (10 * start + (c.toNat - '0'.toNat)) :=
          Nat.ofDigitChars_cons ..
      _ < (10 * start + (c.toNat - '0'.toNat) + 1) * Number.tenTo rest.length := ih digit _
      _ ≤ (start + 1) * 10 * Number.tenTo rest.length := Nat.mul_le_mul_right _ next
      _ = (start + 1) * Number.tenTo (c :: rest).length := by
        rw [more, Nat.mul_assoc, Nat.mul_comm 10]

theorem tenTo_pos (exponent : Nat) : 0 < Number.tenTo exponent := Nat.pow_pos (by decide)

theorem tenTo_le {first second : Nat} (le : first ≤ second) :
    Number.tenTo first ≤ Number.tenTo second :=
  Nat.pow_le_pow_right (by decide) le

theorem text?_isSome_of_isInteger {digits : List Char} (well : isInteger digits = true) :
    (Number.int (Nat.ofDigitChars 10 digits 0)).text?.isSome = true := by
  obtain ⟨all, few⟩ := Bool.and_eq_true_iff.1 well
  have digit := (isDigits_iff.1 all).2
  have small : Nat.ofDigitChars 10 digits 0 < Number.tenTo Formula.digitLimit := by
    -- Zeros may be as many as they like, other integers have to be short.
    rcases Bool.or_eq_true_iff.1 few with zeros | few
    · have nothing : Nat.ofDigitChars 10 digits 0 = 0 := by
        have zeros : digits = List.replicate digits.length '0' :=
          List.eq_replicate_of_mem fun c member => beq_iff_eq.1 (List.all_eq_true.1 zeros c member)
        rw [zeros, Nat.ofDigitChars_replicate_zero, Nat.mul_zero]
      rw [nothing]
      exact tenTo_pos _
    · have few : digits.length ≤ Formula.digitLimit := by simpa using (Bool.and_eq_true_iff.1 few).2
      calc Nat.ofDigitChars 10 digits 0 < (0 + 1) * Number.tenTo digits.length :=
            ofDigitChars_lt digit 0
        _ = Number.tenTo digits.length := by rw [Nat.zero_add, Nat.one_mul]
        _ ≤ Number.tenTo Formula.digitLimit := tenTo_le few
  have long : ¬ Number.tenTo Formula.digitLimit ≤ (Nat.ofDigitChars 10 digits 0 : Int).natAbs := by
    rw [Int.natAbs_natCast]
    omega
  rw [Number.text?, if_neg long]
  rfl

end Arithmetic

namespace Program

open Arithmetic

theorem Apart.tail {name : Name} {names : List Name} (apart : Apart (name :: names)) :
    Apart names :=
  fun first member second other =>
    apart first (List.mem_cons_of_mem _ member) second (List.mem_cons_of_mem _ other)

theorem Unlettered.tail {name : Name} {names : List Name} (letter : Unlettered (name :: names)) :
    Unlettered names :=
  (List.forall_mem_cons.1 letter).2

/-- A store and one that has a variable more, but has printed the same. -/
structure Beside (fresh : Name) (number : Number) (store other : Store) : Prop where
  output : other.output = store.output
  same : ∀ key, key ≠ fresh.string → other.symbols.get? key = store.symbols.get? key
  entries : ∀ entry ∈ other.symbols.entries, entry ∈ store.symbols.entries ∨
    entry = (fresh.string, number)

section
variable {fresh : Name} {number : Number} {names : List Name} {declared : List String}
    {store other : Store}

theorem Beside.put (beside : Beside fresh number store other) (key : String) (value : Number) :
    Beside fresh number { store with symbols := store.symbols.put key value }
      { other with symbols := other.symbols.put key value } where
  output := beside.output
  same := by
    intro asked unlike
    rw [Table.get?_put, Table.get?_put, beside.same asked unlike]
  entries := by
    intro entry listed
    rcases (Table.mem_put ..).1 listed with rfl | ⟨listed, unlike⟩
    · exact Or.inl ((Table.mem_put ..).2 (Or.inl rfl))
    · exact (beside.entries entry listed).imp_left fun old =>
        (Table.mem_put ..).2 (Or.inr ⟨old, unlike⟩)

theorem Beside.ready (beside : Beside fresh number store other) (simple : Simple) :
    Beside fresh number (simple.ready store) (simple.ready other) := by
  cases simple with
  | initialized => exact beside.put _ _
  | declared | assigned | printed => exact beside

theorem Beside.short (beside : Beside fresh number store other)
    (written : number.text?.isSome = true) (short : store.Short) : other.Short := by
  intro entry listed
  rcases beside.entries entry listed with old | rfl
  · exact short entry old
  · exact written

theorem Beside.bounded (beside : Beside fresh number store other)
    (new : fresh.string ∉ names.map Name.string)
    (bounded : Bounded names declared store.symbols.names) :
    Bounded (fresh :: names) declared other.symbols.names where
  within := by
    intro key listed
    obtain ⟨entry, member, rfl⟩ := List.mem_map.1 listed
    rcases beside.entries entry member with old | rfl
    · obtain ⟨name, inside, same⟩ := bounded.within entry.1 (List.mem_map_of_mem old)
      exact ⟨name, List.mem_cons_of_mem _ inside, same⟩
    · exact ⟨fresh, List.mem_cons_self .., rfl⟩
  covers := by
    intro key listed
    have known := bounded.covers key listed
    have unlike : key ≠ fresh.string := by
      rintro rfl
      obtain ⟨name, inside, same⟩ := bounded.within fresh.string known
      exact new (same ▸ List.mem_map_of_mem inside)
    rw [← Table.get?_isSome_iff, beside.same key unlike, Table.get?_isSome_iff]
    exact known

theorem Beside.report (beside : Beside fresh number store other) {name : Name}
    (different : name.string ≠ fresh.string)
    {next : Store} (done : store.report name.chars = .ok next) :
    ∃ after, other.report name.chars = .ok after ∧ Beside fresh number next after := by
  unfold Store.report at done ⊢
  rw [← Name.string] at done ⊢
  rw [beside.same name.string different]
  cases found : store.symbols.get? name.string with
  | none =>
    rw [found] at done
    cases done
  | some value =>
    simp only [found] at done ⊢
    cases shown : Store.textOf value with
    | error error =>
      rw [shown] at done
      cases done
    | ok text =>
      rw [shown] at done
      obtain rfl := Except.ok.inj done
      exact ⟨_, rfl, congrArg (· ++ _) beside.output, beside.same, beside.entries⟩

/-- A statement does beside what it does without the other variable. -/
theorem Beside.exec (beside : Beside fresh number store other)
    (steady : Steady names declared store)
    (apart : Apart (fresh :: names)) (letter : Unlettered (fresh :: names))
    (new : fresh.string ∉ names.map Name.string)
    (written : number.text?.isSome = true) {simple : Simple}
    (inside : ∀ name ∈ simple.names, name ∈ names)
    (known : ∀ name ∈ simple.operands, name.string ∈ simple.scope declared)
    (shallow : simple.isShallow = true) {records : List Record}
    {next : Store} (done : simple.exec records store = .ok next) (held : List Record) :
    ∃ after, simple.exec held other = .ok after ∧ Beside fresh number next after := by
  have unlike : ∀ name ∈ names, name.string ≠ fresh.string :=
    fun name member same => new (same ▸ List.mem_map_of_mem member)
  cases valued : simple.value? with
  | some value =>
    have operands := Simple.operands_eq valued
    have value_inside : ∀ name ∈ value.names, name ∈ names :=
      fun name member => inside name (List.mem_cons_of_mem _ (operands ▸ member))
    have sees := steady.sees apart.tail letter.tail valued inside known
    have shallow : value.isShallow = true := by simpa [Simple.isShallow, valued] using shallow
    have beside := beside.ready simple
    have bounded := beside.bounded new (steady.ready_bounded (Simple.subject_mem inside))
    -- Both stores show the same for the names of the value.
    have same : ∀ name ∈ value.names,
        (simple.ready other).symbols.get? name.string =
          (simple.ready store).symbols.get? name.string :=
      fun name member => beside.same _ (unlike name (value_inside name member))
    have others : (simple.ready other).Sees value := by
      have within : ∀ name ∈ value.names, name ∈ fresh :: names :=
        fun name member => List.mem_cons_of_mem _ (value_inside name member)
      refine bounded.sees apart letter within fun name member => ?_
      rw [same name member]
      exact sees.held name member
    rw [Simple.exec_value valued] at done ⊢
    obtain ⟨result, evaluated, rfl⟩ := set_ok done
    -- The value has been evaluated, so that every variable could be written out.
    have short : (simple.ready store).Short := by
      by_contra long
      rw [Store.evaluate_long .standard records sees.named long] at evaluated
      cases evaluated
    have alike :=
      Store.evaluate_congr sees others short (beside.short written short) shallow same records held
    rw [evaluated] at alike
    refine ⟨_, ?_, beside.put _ result⟩
    rw [Store.set, alike]
    rfl
  | none =>
    cases simple with
    | initialized | assigned => cases valued
    | declared type space name =>
      obtain rfl : store.begin type.chars name.chars = next := Except.ok.inj done
      refine ⟨_, rfl, ?_⟩
      rw [begin_eq, begin_eq]
      exact beside.put _ type.zero
    | printed name => exact beside.report (unlike name (Simple.subject_mem inside)) done

theorem Beside.run (apart : Apart (fresh :: names)) (letter : Unlettered (fresh :: names))
    (new : fresh.string ∉ names.map Name.string) (written : number.text?.isSome = true)
    (records held : List Record) (simples : List Simple)
    (inside : ∀ simple ∈ simples, ∀ name ∈ simple.names, name ∈ names)
    (shallow : ∀ simple ∈ simples, simple.isShallow = true) :
    ∀ (declared : List String) (store other last : Store), settled declared simples = true →
      Steady names declared store → Beside fresh number store other →
      simples.foldlM (Simple.exec records) store = .ok last →
      ∃ final, simples.foldlM (Simple.exec held) other = .ok final ∧
        Beside fresh number last final := by
  induction simples with
  | nil =>
    intro declared store other last _ _ beside done
    obtain rfl := Except.ok.inj done
    exact ⟨other, rfl, beside⟩
  | cons simple rest ih =>
    intro declared store other last scope steady beside done
    obtain ⟨inside_first, inside⟩ := List.forall_mem_cons.1 inside
    obtain ⟨shallow_first, shallow⟩ := List.forall_mem_cons.1 shallow
    obtain ⟨known, scope⟩ := settled_cons.1 scope
    obtain ⟨next, stepped, done⟩ := run_ok done
    obtain ⟨after, stepped_other, beside⟩ :=
      beside.exec steady apart letter new written inside_first known shallow_first stepped held
    have steady := steady.exec apart.tail letter.tail inside_first known shallow_first stepped
    rw [List.foldlM_cons, stepped_other]
    exact ih inside shallow _ next after last scope steady beside done

end

/-! ## Insertion -/

def entered (declared : List String) (simples : List Simple) : List String :=
  simples.foldl (fun declared simple => simple.subject.string :: declared) declared

theorem settled_append (declared : List String) (front back : List Simple) :
    settled declared (front ++ back) =
      (settled declared front && settled (entered declared front) back) := by
  induction front generalizing declared with
  | nil => rfl
  | cons simple rest ih =>
    rw [List.cons_append, settled, ih, settled, Bool.and_assoc]
    rfl

/-- What a run leaves, and that it does not count which records are run. -/
theorem Steady.run {names : List Name} (apart : Apart names) (letter : Unlettered names)
    (records held : List Record)
    (simples : List Simple) (inside : ∀ simple ∈ simples, ∀ name ∈ simple.names, name ∈ names)
    (shallow : ∀ simple ∈ simples, simple.isShallow = true) :
    ∀ (declared : List String) (store last : Store), settled declared simples = true →
      Steady names declared store →
      simples.foldlM (Simple.exec records) store = .ok last →
      Steady names (entered declared simples) last ∧
        simples.foldlM (Simple.exec held) store = .ok last := by
  induction simples with
  | nil =>
    intro declared store last _ steady done
    obtain rfl := Except.ok.inj done
    exact ⟨steady, rfl⟩
  | cons simple rest ih =>
    intro declared store last scope steady done
    obtain ⟨inside_first, inside⟩ := List.forall_mem_cons.1 inside
    obtain ⟨shallow_first, shallow⟩ := List.forall_mem_cons.1 shallow
    obtain ⟨known, scope⟩ := settled_cons.1 scope
    obtain ⟨next, stepped, done⟩ := run_ok done
    have same := steady.exec_records apart letter inside_first known shallow_first records held
    have steady := steady.exec apart letter inside_first known shallow_first stepped
    rw [List.foldlM_cons, same, stepped]
    exact ih inside shallow _ next last scope steady done

def declaration (fresh : Name) (digits : List Char) (well : isInteger digits = true) : Simple :=
  .initialized .int ⟨.space, by decide⟩ fresh .space .space
    ⟨.number (.integer digits well) .empty, .done⟩

section
variable {fresh : Name} {names : List Name} {declared : List String} {store : Store}
    {digits : List Char}

theorem declaration_exec (new : fresh.string ∉ names.map Name.string)
    (bounded : Bounded names declared store.symbols.names) (short : store.Short)
    (well : isInteger digits = true)
    (records : List Record) :
    ∃ other, (declaration fresh digits well).exec records store = .ok other ∧
      Beside fresh (.int (Nat.ofDigitChars 10 digits 0)) store other := by
  -- The variable is zero until it has its value.
  have beside : Beside fresh (.int 0) store ((declaration fresh digits well).ready store) := by
    refine ⟨rfl, fun key unlike => ?_, fun entry listed => ?_⟩
    · exact (Table.get?_put ..).trans (if_neg unlike)
    · exact ((Table.mem_put ..).1 listed).symm.imp_left And.left
  have named : Named ((declaration fresh digits well).ready store).symbols.entries :=
    List.forall_mem_map.1 (beside.bounded new bounded).named
  have zero : (Number.int 0).text?.isSome = true := by decide +kernel
  let literal : Expression := ⟨.number (.integer digits well) .empty, .done⟩
  have evaluated : Store.evaluate .standard records _ (String.ofList (literal.text id)) =
    .ok (.int (literal.value _), _) :=
    Store.evaluate_whole rfl rfl named (beside.short zero short)
      (fun key listed name member => absurd member List.not_mem_nil) (fun name member =>
        absurd member List.not_mem_nil)
      records
  let value : Number := .int (Nat.ofDigitChars 10 digits 0)
  refine ⟨{ store with
    symbols := (store.symbols.put fresh.string (.int 0)).put fresh.string value }, ?_, rfl,
    fun key unlike => ?_, fun entry listed => ?_⟩
  · rw [Simple.exec_value rfl, Store.set, evaluated]
    rfl
  · rw [Table.get?_put, if_neg unlike, Table.get?_put, if_neg unlike]
  · rcases (Table.mem_put ..).1 listed with same | ⟨listed, unlike⟩
    · exact Or.inr same
    · rcases (Table.mem_put ..).1 listed with rfl | ⟨listed, -⟩
      · exact absurd rfl unlike
      · exact Or.inl listed

end

/-- A variable that is part of no other name changes nothing: wherever its declaration is put
between the lines of a program that runs through, what is printed stays the same. Only if a variable
cannot be written out there does the declaration itself fail. -/
theorem unrelated_variable_changes_nothing (before after : List Simple) (fresh : Name)
    (digits : List Char) (well : isInteger digits = true) (source extended : String) (last : Store)
    (laid : Laid source ((before ++ after).map Simple.text))
    (laid_extended : Laid extended
      ((before ++ declaration fresh digits well :: after).map Simple.text))
    (shallow : ∀ simple ∈ before ++ after, simple.isShallow = true)
    (scope : settled [] (before ++ after) = true)
    (new : fresh.string ∉ ((before ++ after).flatMap Simple.names).map Name.string)
    (apart : Apart (fresh :: (before ++ after).flatMap Simple.names))
    (letter : Unlettered (fresh :: (before ++ after).flatMap Simple.names))
    (short : ∀ store, before.foldlM (Simple.exec (Record.ofSource source)) {} =
      .ok store → store.Short)
    (returned : interpret source = .ok last) :
    ∃ final, interpret extended = .ok final ∧ final.result = last.result := by
  generalize all : (before ++ after).flatMap Simple.names = names at new apart letter
  have inside : ∀ simple ∈ before ++ after, ∀ name ∈ simple.names, name ∈ names :=
    fun simple listed name member => all ▸ List.mem_flatMap.2 ⟨simple, listed, member⟩
  obtain ⟨inside_before, inside_after⟩ := List.forall_mem_append.1 inside
  obtain ⟨shallow_before, shallow_after⟩ := List.forall_mem_append.1 shallow
  rw [settled_append] at scope
  obtain ⟨scope_before, scope_after⟩ := Bool.and_eq_true_iff.1 scope
  have nothing : Steady names [] {} :=
    ⟨⟨List.forall_mem_nil _, List.forall_mem_nil _⟩, List.forall_mem_nil _⟩
  rw [interpret_lines laid, List.foldlM_append] at returned
  rw [interpret_lines laid_extended, List.foldlM_append]
  -- The lines before run as they did, and those behind run beside the added variable.
  cases reached : before.foldlM (Simple.exec (Record.ofSource source)) ({} : Store) with
  | error error =>
    rw [reached] at returned
    cases returned
  | ok store =>
    rw [reached] at returned
    obtain ⟨steady, same⟩ :=
      Steady.run apart.tail letter.tail _ (Record.ofSource extended) before inside_before
      shallow_before [] {} store scope_before nothing reached
    obtain ⟨other, declared, beside⟩ :=
      declaration_exec new steady.bounded (short store reached) well
      (Record.ofSource extended)
    obtain ⟨final, run, beside⟩ := Beside.run apart letter new (text?_isSome_of_isInteger well) _
      (Record.ofSource extended) after inside_after shallow_after _ store other last scope_after
        steady beside returned
    refine ⟨final, ?_, ?_⟩
    · rw [same]
      change (declaration fresh digits well :: after).foldlM
        (Simple.exec (Record.ofSource extended)) store = _
      rw [List.foldlM_cons, declared]
      exact run
    · rw [Store.result, Store.result, beside.output]

theorem unrelated_variable_changes_nothing_between :
    let name (chars : List Char) (well : isName chars = true) : Name := ⟨chars, well⟩
    let four : Expression := ⟨.number (.integer ['4'] rfl) .empty, .done⟩
    let sum : Expression :=
      ⟨.name (name ['b'] rfl) .space,
        .more .plus .space (.number (.integer ['1'] rfl) .empty) .done⟩
    let before : List Simple :=
      [.initialized .int ⟨.space, by decide⟩ (name ['b'] rfl) .space .space four]
    let after : List Simple :=
      [.initialized .int ⟨.space, by decide⟩ (name ['c'] rfl) .space .space sum,
        .printed (name ['c'] rfl)]
    Laid "int b = 4;\nint c = b + 1;\nprint(c);" ((before ++ after).map Simple.text) ∧
      ∃ final, interpret "int b = 4;\nint a = 70;\nint c = b + 1;\nprint(c);" = .ok final ∧
        final.result = "c = 5" := by
  intro name four sum before after
  have laid : Laid "int b = 4;\nint c = b + 1;\nprint(c);" ((before ++ after).map Simple.text) := by
    decide +kernel
  refine ⟨laid, ?_⟩
  have printed : (interpret "int b = 4;\nint c = b + 1;\nprint(c);").map Store.result =
    .ok "c = 5" := by decide +kernel
  have written :
    (before.foldlM (Simple.exec (Record.ofSource "int b = 4;\nint c = b + 1;\nprint(c);"))
      ({} : Store)).map
      (fun store => store.symbols.entries.all fun entry => entry.2.text?.isSome) = .ok true := by
        decide +kernel
  cases returned : interpret "int b = 4;\nint c = b + 1;\nprint(c);" with
  | error error =>
    rw [returned] at printed
    cases printed
  | ok last =>
    rw [returned] at printed
    have result : last.result = "c = 5" := Except.ok.inj printed
    rw [← result]
    refine unrelated_variable_changes_nothing before after (name ['a'] rfl) ['7',
      '0'] rfl _ _ last laid
      (by decide +kernel) (by decide) (by decide) (by decide) (by decide) (by decide) ?_ returned
    intro store reached
    rw [reached] at written
    exact List.all_eq_true.1 (Except.ok.inj written)

/-- The declared name is part of another one, which it takes apart. -/
theorem unrelated_variable_part_of_name :
    (interpret "int ab = 5;\nint c = ab + 1;\nprint(c);").map Store.result = .ok "c = 6" ∧
      (interpret "int a = 1;\nint ab = 5;\nint c = ab + 1;\nprint(c);").isOk = false := by
  decide +kernel

end Program

end Workbench
