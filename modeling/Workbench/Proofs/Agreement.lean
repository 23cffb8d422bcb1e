import Workbench.Proofs.Linear

/-! The machine prints what the interpreter prints.

The machine holds the same integers as the interpreter, variable by variable and line by line, when
expressions are computed from left to right as they are meant.
-/

set_option autoImplicit false

namespace Workbench

open Mips (inWord word)

namespace Program

open Arithmetic

theorem isShort_of_inWord {n : Int} (fits : inWord n = true) : Tally.isShort n = true := by
  have large : 0x80000000 < Number.tenTo Formula.digitLimit := by decide +kernel
  obtain ⟨low, high⟩ := Mips.inWord_iff.1 fits
  refine decide_eq_true ?_
  generalize Number.tenTo Formula.digitLimit = limit at large ⊢
  omega

def Tally.ready (tally : Tally) : Simple → Tally
  | .initialized _ _ name _ _ _ => tally.begin name
  | .declared .. | .assigned .. | .printed _ => tally

/-- Whether a run stays within words: no integer that comes up on the way needs more. -/
def inWords (tally : Tally) : List Simple → Bool
  | [] => true
  | simple :: rest =>
    (simple.value?.all fun value => (value.steps (tally.ready simple).valueOf).all inWord) &&
      (tally.exec simple).toOption.all fun next => inWords next rest

def Simple.isWhole (simple : Simple) : Bool :=
  simple.type? != some .float && simple.value?.all Expression.isWhole

/-- Each value is an expression that a machine of ten registers computes as it is meant. -/
def Simple.isLinear (simple : Simple) : Bool := simple.value?.all Expression.isLinear

theorem Simple.isIntegral_of_isLinear {simple : Simple} (whole : simple.isWhole = true)
    (linear : simple.isLinear = true) :
    simple.isIntegral = true := by
  obtain ⟨typed, whole⟩ := Bool.and_eq_true_iff.1 whole
  refine Bool.and_eq_true_iff.2 ⟨typed, (Option.all_eq_true ..).2 fun value valued => ?_⟩
  have whole := (Option.all_eq_true ..).1 whole value valued
  have linear := (Option.all_eq_true ..).1 linear value valued
  exact Bool.and_eq_true_iff.2 ⟨whole, Expression.fits_of_isLinear linear⟩

theorem Simple.isFlat_of_isLinear {simple : Simple} (linear : simple.isLinear = true) :
    simple.isFlat = true := by
  refine (Option.all_eq_true ..).2 fun value valued => ?_
  obtain ⟨first, rest⟩ := value
  have linear := (Option.all_eq_true ..).1 linear _ valued
  simp only [Expression.isLinear, Bool.and_eq_true] at linear
  exact linear.1.1

/-- The machine holds what the program holds, and zero for what comes later; both have printed the
same. -/
structure Mirrors (labels : List String) (tally : Tally) (state : Mips.State)
    (printed : List (String × Int)) : Prop where
  held : ∀ key n, tally.values.get? key = some n → state.memory.get? key = some (word n)
  later : ∀ label ∈ labels, tally.values.get? label = none → state.memory.get? label = some 0
  fits : ∀ entry ∈ tally.values.entries, inWord entry.2 = true
  output : tally.output = printed.map fun entry => Store.line entry.1 (toString entry.2)
  printed : state.printed = printed.map Prod.snd

section
variable {labels : List String} {tally : Tally} {state : Mips.State} {printed : List (String × Int)}

theorem Mirrors.begin (mirrors : Mirrors labels tally state printed) {name : Name}
    (listed : name.string ∈ labels)
    (new : name.string ∉ tally.values.names) : Mirrors labels (tally.begin name) state printed where
  held := by
    intro key n found
    rw [Tally.begin, Table.get?_put] at found
    split at found
    case isTrue same =>
      obtain rfl := Option.some.inj found
      have unknown : tally.values.get? key = none :=
        Option.not_isSome_iff_eq_none.1 (mt (Table.get?_isSome_iff ..).1 (same ▸ new))
      exact (mirrors.later key (same ▸ listed) unknown).trans rfl
    case isFalse => exact mirrors.held key n found
  later := by
    intro label member missing
    rw [Tally.begin, Table.get?_put] at missing
    split at missing
    · cases missing
    · exact mirrors.later label member missing
  fits := by
    intro entry member
    rcases (Table.mem_put ..).1 member with rfl | ⟨member, -⟩
    · rfl
    · exact mirrors.fits entry member
  output := mirrors.output
  printed := mirrors.printed

theorem Mirrors.memory_contains (mirrors : Mirrors labels tally state printed) {label : String}
    (listed : label ∈ labels) :
    state.memory.contains label = true := by
  rw [Table.contains]
  cases found : tally.values.get? label with
  | some n => rw [mirrors.held label n found]; rfl
  | none => rw [mirrors.later label listed found]; rfl

theorem Mirrors.assign (mirrors : Mirrors labels tally state printed) {name : Name}
    (listed : name.string ∈ labels)
    {value : Expression} (linear : value.isLinear = true) (whole : value.isWhole = true)
    (known : ∀ name ∈ value.names, name.string ∈ tally.values.names)
    (steps : ∀ n ∈ value.steps tally.valueOf, inWord n = true) :
    ∃ next after, tally.assign name value = .ok next ∧
      (value.code ++ [Mips.Instruction.store .word (.temporary 0) name.string]).foldlM
        Mips.State.step state = .ok after ∧
      Mirrors labels next after printed := by
  have short : (tally.values.entries.all fun entry => Tally.isShort entry.2) = true :=
    List.all_eq_true.2 fun entry member => isShort_of_inWord (mirrors.fits entry member)
  have held : ∀ name ∈ value.names, state.memory.get? name.string =
      some (word (tally.valueOf name.chars)) := by
    intro name member
    obtain ⟨n, found⟩ :=
      Option.isSome_iff_exists.1 ((Table.get?_isSome_iff ..).2 (known name member))
    rw [mirrors.held _ n found, Tally.valueOf, ← Name.string, found]
    rfl
  -- The code finds in memory what the expression reads and leaves its value in a register.
  obtain ⟨registers, run, result, fits⟩ := value.code_runs linear whole held steps
  let computed : Mips.State := { state with registers := registers }
  let after : Mips.State :=
    { computed with memory := computed.memory.put name.string (registers (.temporary 0)) }
  have stored : computed.step (.store .word (.temporary 0) name.string) = .ok after :=
    Mips.step_store rfl (mirrors.memory_contains listed)
  let next : Tally :=
    { tally with values := tally.values.put name.string (value.value tally.valueOf) }
  have assigned : tally.assign name value = .ok next := if_pos short
  refine ⟨next, after, assigned, ?_, ?_⟩
  · rw [Mips.run_append run, Mips.run_cons stored]
    rfl
  · -- Only the variable that is assigned to changes, here and there.
    constructor
    · intro key n found
      simp only [next, after, computed, Table.get?_put] at found ⊢
      split
      case isTrue same =>
        rw [if_pos same] at found
        rw [← Option.some.inj found, ← result]
      case isFalse unlike =>
        rw [if_neg unlike] at found
        exact mirrors.held key n found
    · intro label member missing
      simp only [next, after, computed, Table.get?_put] at missing ⊢
      split at missing
      · cases missing
      case isFalse unlike =>
        rw [if_neg unlike]
        exact mirrors.later label member missing
    · intro entry member
      rcases (Table.mem_put ..).1 member with rfl | ⟨member, -⟩
      · exact fits
      · exact mirrors.fits entry member
    · exact mirrors.output
    · exact mirrors.printed

theorem Mirrors.report (mirrors : Mirrors labels tally state printed) {name : Name}
    (known : name.string ∈ tally.values.names) :
    ∃ next after printed, tally.report name = .ok next ∧
      (Simple.printed name).code.foldlM Mips.State.step state = .ok after ∧
        Mirrors labels next after printed ∧
      next.values = tally.values := by
  obtain ⟨n, found⟩ := Option.isSome_iff_exists.1 ((Table.get?_isSome_iff ..).2 known)
  have fits : inWord n = true := by
    obtain ⟨front, back, split, -⟩ := List.lookup_eq_some_iff.1 found
    exact mirrors.fits (name.string, n) (split ▸ by simp)
  -- A print is three steps: the argument, the number of the call, and the call.
  let loaded := state.write .argument (word n)
  let called := loaded.write .value 1
  have load : state.step (.load .word .argument name.string) = .ok loaded :=
    Mips.step_load rfl (mirrors.held _ n found)
  have number : loaded.step (.immediate .word .value "1") = .ok called :=
    Mips.step_immediate rfl rfl
  have argument : (called.registers .argument).toInt = n := by
    rw [Mips.write_of_ne (by decide), Mips.write_self, Mips.toInt_word fits]
  let after : Mips.State := { called with printed := state.printed ++ [n] }
  have call : called.step .syscall = .ok after := by
    rw [Mips.State.step, Mips.write_self, if_pos rfl, argument]
    rfl
  refine ⟨{ tally with output := tally.output ++ [Store.line name.string (toString n)] }, after,
    printed ++ [(name.string, n)], ?_, ?_, ?_, rfl⟩
  · rw [Tally.report, found]
    exact if_pos (isShort_of_inWord fits)
  · rw [Simple.code, Mips.run_cons load, Mips.run_cons number, Mips.run_cons call]
    rfl
  · refine ⟨mirrors.held, mirrors.later, mirrors.fits, ?_, ?_⟩
    · rw [List.map_append, ← mirrors.output]
      rfl
    · rw [List.map_append, ← mirrors.printed]
      rfl

/-- A statement and its code keep the machine a mirror of the program. -/
theorem Mirrors.exec (mirrors : Mirrors labels tally state printed) {declared : List String}
    (same : ∀ key, key ∈ tally.values.names ↔ key ∈ declared) {simple : Simple}
    (listed : simple.subject.string ∈ labels)
    (integral : simple.isIntegral = true) (linear : simple.isLinear = true)
    (known : ∀ name ∈ simple.uses, name.string ∈ declared)
    (once : simple.type?.isSome = true → simple.subject.string ∉ declared)
    (steps : ∀ value ∈ simple.value?, ∀ n ∈ value.steps (tally.ready simple).valueOf, inWord n =
      true) :
    ∃ next after printed, tally.exec simple = .ok next ∧
      simple.code.foldlM Mips.State.step state = .ok after ∧
      Mirrors labels next after printed ∧ ∀ key, key ∈ next.values.names ↔
        key ∈ simple.subject.string :: declared := by
  cases simple with
  | declared type space name =>
    have new := mt (same _).1 (once rfl)
    refine ⟨_, state, printed, rfl, rfl, mirrors.begin listed new, fun key => ?_⟩
    rw [Tally.begin, Table.mem_names_put, List.mem_cons, same]
    rfl
  | initialized type space name before after value =>
    have new := mt (same _).1 (once rfl)
    obtain ⟨whole, -⟩ := Simple.whole_of_isIntegral integral rfl
    have inside : ∀ other ∈ value.names, other.string ∈ (tally.begin name).values.names := by
      intro other member
      rw [Tally.begin, Table.mem_names_put, same]
      exact Or.inr (known other member)
    -- The word is zero already, which is what the declaration makes of the variable.
    have begun : Mirrors labels (tally.begin name) state printed := mirrors.begin listed new
    obtain ⟨next, after, assigned, run, mirrors⟩ :=
      begun.assign listed linear whole inside (steps value rfl)
    refine ⟨next, after, printed, assigned, run, mirrors, fun key => ?_⟩
    obtain ⟨n, values⟩ := Tally.assign_values assigned
    rw [values, Table.mem_names_put, Tally.begin, Table.mem_names_put, same, List.mem_cons]
    exact ⟨fun either => either.elim Or.inl id, Or.inr⟩
  | assigned name before after value =>
    obtain ⟨whole, -⟩ := Simple.whole_of_isIntegral integral rfl
    have inside : ∀ name ∈ value.names, name.string ∈ tally.values.names :=
      fun other member => (same _).2 (known other (List.mem_cons_of_mem _ member))
    obtain ⟨next, after, assigned, run, mirrors⟩ :=
      mirrors.assign listed linear whole inside (steps value rfl)
    refine ⟨next, after, printed, assigned, run, mirrors, fun key => ?_⟩
    obtain ⟨n, values⟩ := Tally.assign_values assigned
    rw [values, Table.mem_names_put, same, List.mem_cons, Simple.subject]
  | printed name =>
    have declared_name := known name (List.mem_singleton_self name)
    obtain ⟨next, after, printed, reported, run, mirrors, values⟩ :=
      mirrors.report ((same _).2 declared_name)
    refine ⟨next, after, printed, reported, run, mirrors, fun key => ?_⟩
    rw [values, same, List.mem_cons]
    exact ⟨Or.inr, fun either => either.elim (fun equal => equal ▸ declared_name) id⟩

end

def Simple.label? (simple : Simple) : Option String :=
  simple.type?.map fun _ => simple.subject.string

theorem Simple.subject_listed {simple : Simple} {labels declared : List String}
    (brought : ∀ label ∈ simple.label?, label ∈ labels) (covered : ∀ key ∈ declared, key ∈ labels)
    (known : ∀ name ∈ simple.uses, name.string ∈ declared) : simple.subject.string ∈ labels := by
  cases simple with
  | declared | initialized => exact brought _ rfl
  | assigned | printed => exact covered _ (known _ (List.mem_cons_self ..))

theorem Mirrors.run {labels : List String} (simples : List Simple)
    (integral : ∀ simple ∈ simples, simple.isIntegral = true)
    (linear : ∀ simple ∈ simples, simple.isLinear = true)
    (brought : ∀ simple ∈ simples, ∀ label ∈ simple.label?, label ∈ labels) :
    ∀ (declared : List String) (tally : Tally) (state : Mips.State) (printed : List (String × Int)),
      Mirrors labels tally state printed → (∀ key, key ∈ tally.values.names ↔ key ∈ declared) →
      (∀ key ∈ declared, key ∈ labels) → inScope declared simples = true →
        declaredOnce declared simples = true →
      inWords tally simples = true →
      ∃ last final printed, simples.foldlM Tally.exec tally = .ok last ∧
        (simples.flatMap Simple.code).foldlM Mips.State.step state = .ok final ∧
          Mirrors labels last final printed := by
  induction simples with
  | nil => exact fun _ tally state printed mirrors _ _ _ _ _ =>
    ⟨tally, state, printed, rfl, rfl, mirrors⟩
  | cons simple rest ih =>
    intro declared tally state printed mirrors same covered scope once words
    obtain ⟨integral_first, integral⟩ := List.forall_mem_cons.1 integral
    obtain ⟨linear_first, linear⟩ := List.forall_mem_cons.1 linear
    obtain ⟨brought_first, brought⟩ := List.forall_mem_cons.1 brought
    obtain ⟨known, scope⟩ := inScope_cons.1 scope
    obtain ⟨once_first, once⟩ := declaredOnce_cons.1 once
    obtain ⟨steps, words⟩ := Bool.and_eq_true_iff.1 words
    have steps : ∀ value ∈ simple.value?, ∀ n ∈ value.steps (tally.ready simple).valueOf,
        inWord n = true :=
      fun value valued => List.all_eq_true.1 ((Option.all_eq_true ..).1 steps value valued)
    have listed := Simple.subject_listed brought_first covered known
    obtain ⟨next, after, printed, stepped, run, mirrors, same⟩ :=
      mirrors.exec same listed integral_first linear_first known once_first steps
    have words : inWords next rest = true := by simpa [stepped, Except.toOption] using words
    obtain ⟨last, final, printed, ended, run_rest, mirrors⟩ :=
      ih integral linear brought _ next after printed mirrors
      same (List.forall_mem_cons.2 ⟨listed, covered⟩) scope once words
    refine ⟨last, final, printed, ?_, ?_, mirrors⟩
    · rw [List.foldlM_cons, stepped]
      exact ended
    · rw [List.flatMap_cons, Mips.run_append run]
      exact run_rest

/-! ## The listing -/

section
variable (simples : List Simple)

theorem filterMap_data (read : Mips.Item → Option String)
    (named : ∀ label, read (.word label) = some label) :
    (simples.flatMap Simple.data).filterMap read = simples.filterMap Simple.label? := by
  rw [List.filterMap_flatMap, List.filterMap_eq_flatMap_toList]
  congr 1
  funext simple
  cases simple with
  | declared | initialized => simp [Simple.data, named, Simple.label?, Simple.type?, Simple.subject]
  | assigned | printed => rfl

theorem labels_assembly :
    (assembly simples).filterMap Mips.Item.label? =
      simples.filterMap Simple.label? ++ ["main"] := by
  have data := filterMap_data simples Mips.Item.label? fun _ => rfl
  have code : ((codeOf simples).map Mips.Item.instruction).filterMap Mips.Item.label? = [] := by
    simp [Mips.Item.label?]
  simp only [assembly, List.filterMap_cons, List.filterMap_append, data, code, Mips.Item.label?]

theorem cells_assembly :
    (assembly simples).filterMap Mips.Item.cell? = simples.filterMap Simple.label? := by
  have data := filterMap_data simples Mips.Item.cell? fun _ => rfl
  have code : ((codeOf simples).map Mips.Item.instruction).filterMap Mips.Item.cell? = [] := by
    simp [Mips.Item.cell?]
  simp only [assembly, List.filterMap_cons, List.filterMap_append, data, code, Mips.Item.cell?,
    List.append_nil]

theorem instructions_assembly :
    (assembly simples).filterMap Mips.Item.instruction? = codeOf simples := by
  have data : (simples.flatMap Simple.data).filterMap Mips.Item.instruction? = [] := by
    rw [List.filterMap_eq_nil_iff]
    intro item member
    obtain ⟨simple, -, member⟩ := List.mem_flatMap.1 member
    cases simple with
    | declared | initialized =>
      obtain rfl := List.mem_singleton.1 member
      rfl
    | assigned | printed => cases member
  have code : ((codeOf simples).map Mips.Item.instruction).filterMap Mips.Item.instruction? =
      codeOf simples := by
    rw [List.filterMap_map]
    exact List.filterMap_some
  simp only [assembly, List.filterMap_cons, List.filterMap_append, data, code,
    Mips.Item.instruction?, List.nil_append]

end

theorem Simple.isPlain_code {simple : Simple} (whole : simple.isWhole = true)
    (linear : simple.isLinear = true) :
    ∀ instruction ∈ simple.code, instruction.isPlain = true := by
  have plain := fun name : Name => isPlain_of_word (word_of_name name)
  cases simple with
  | declared => exact List.forall_mem_nil _
  | initialized type space name before after value | assigned name before after value =>
    refine List.forall_mem_append.2
      ⟨Expression.isPlain_code linear (Bool.and_eq_true_iff.1 whole).2, ?_⟩
    simp [Mips.Instruction.isPlain, Mips.Register.isWord, Name.string, plain]
  | printed name =>
    have number : Mips.isPlain ['1'] = true := by decide
    simp [Simple.code, Mips.Instruction.isPlain, Mips.Register.isWord, Name.string, plain, number]

theorem isPlain_assembly {simples : List Simple} (whole : ∀ simple ∈ simples, simple.isWhole = true)
    (linear : ∀ simple ∈ simples, simple.isLinear = true) :
    ∀ item ∈ assembly simples, item.isPlain = true := by
  have data : ∀ item ∈ simples.flatMap Simple.data, item.isPlain = true := by
    intro item member
    obtain ⟨simple, -, member⟩ := List.mem_flatMap.1 member
    have plain := fun name : Name => isPlain_of_word (word_of_name name)
    cases simple with
    | declared | initialized =>
      obtain rfl := List.mem_singleton.1 member
      simp [Mips.Item.isPlain, Name.string, plain]
    | assigned | printed => cases member
  have code : ∀ instruction ∈ codeOf simples, instruction.isPlain = true := by
    refine List.forall_mem_append.2 ⟨fun instruction member => ?_, by decide⟩
    obtain ⟨simple, listed, member⟩ := List.mem_flatMap.1 member
    exact Simple.isPlain_code (whole simple listed) (linear simple listed) instruction member
  simp only [assembly, List.forall_mem_cons, List.forall_mem_append, List.forall_mem_map]
  exact ⟨rfl, data, rfl, rfl, code⟩

theorem labels_nodup {declared : List String} {simples : List Simple}
    (once : declaredOnce declared simples = true) :
    (simples.filterMap Simple.label?).Nodup ∧
      ∀ label ∈ simples.filterMap Simple.label?, label ∉ declared := by
  induction simples generalizing declared with
  | nil => exact ⟨List.nodup_nil, List.forall_mem_nil _⟩
  | cons simple rest ih =>
    obtain ⟨new, once⟩ := declaredOnce_cons.1 once
    obtain ⟨nodup, apart⟩ := ih once
    have undeclared : ∀ label ∈ rest.filterMap Simple.label?, label ∉ declared :=
      fun label member => mt (List.mem_cons_of_mem _) (apart label member)
    rw [List.filterMap_cons, Simple.label?]
    cases typed : simple.type? with
    | none => exact ⟨nodup, undeclared⟩
    | some type =>
      -- A later statement does not declare this name again.
      refine ⟨List.nodup_cons.2 ⟨fun member => ?_, nodup⟩,
        List.forall_mem_cons.2 ⟨new (typed ▸ rfl), undeclared⟩⟩
      exact apart _ member (List.mem_cons_self ..)

theorem Mirrors.start (simples : List Simple) :
    Mirrors (simples.filterMap Simple.label?) {} (.start (assembly simples)) [] where
  held := fun _ _ found => (Option.some_ne_none _ found.symm).elim
  later := by
    intro label member _
    rw [← cells_assembly] at member
    exact Mips.start_memory member
  fits := List.forall_mem_nil _
  output := rfl
  printed := rfl

theorem run_ending (state : Mips.State) :
    [Mips.Instruction.immediate .word .value "10", .syscall].foldlM Mips.State.step state =
      .error (.exit state.printed) := by
  rw [Mips.run_cons (Mips.step_immediate rfl rfl)]
  rfl

theorem run_assembly {simples : List Simple} (once : declaredOnce [] simples = true)
    (entry : ∀ simple ∈ simples, simple.subject.string ≠ "main") {final : Mips.State}
    (run : (simples.flatMap Simple.code).foldlM Mips.State.step (.start (assembly simples)) =
      .ok final) :
    Mips.run (assembly simples) = some final.printed := by
  have unlike : "main" ∉ simples.filterMap Simple.label? := by
    intro member
    obtain ⟨simple, member, labelled⟩ := List.mem_filterMap.1 member
    obtain ⟨type, -, named⟩ := Option.map_eq_some_iff.1 labelled
    exact entry simple member named
  have nodup : ((assembly simples).filterMap Mips.Item.label?).Nodup := by
    rw [labels_assembly]
    refine List.nodup_append.2 ⟨(labels_nodup once).1, by decide, fun label member other last => ?_⟩
    rw [List.mem_singleton.1 last]
    exact fun same => unlike (same ▸ member)
  rw [Mips.run, if_pos nodup, instructions_assembly, codeOf, Mips.run_append run, run_ending]

/-- The two ways to run a program agree, if no product comes after a sum, there are no parentheses
and no variable has the name of the entry point: both print the same integers, and the interpreter
puts the name of the variable before each. -/
theorem back_ends_agree (source : String) (simples : List Simple)
    (laid : Laid source (simples.map Simple.text))
    (accepted : Accepted source) (apart : Apart (simples.flatMap Simple.names))
    (entry : ∀ simple ∈ simples, simple.subject.string ≠ "main")
    (whole : ∀ simple ∈ simples, simple.isWhole = true)
    (linear : ∀ simple ∈ simples, simple.isLinear = true) (words : inWords {} simples = true) :
    ∃ printed : List (String × Int), (Mips.ofSource source).error = none ∧
      Mips.execute (Mips.listing (Mips.ofSource source).items) = some (printed.map Prod.snd) ∧
      ∃ store, interpret source = .ok store ∧
        store.output = printed.map fun entry => Store.line entry.1 (toString entry.2) := by
  obtain ⟨identifiers, scope, once⟩ := scope_of_accepted laid accepted
  have integral : ∀ simple ∈ simples, simple.isIntegral = true :=
    fun simple member => Simple.isIntegral_of_isLinear (whole simple member) (linear simple member)
  have inside : ∀ simple ∈ simples, ∀ name ∈ simple.names, name ∈ simples.flatMap Simple.names :=
    fun simple member name used => List.mem_flatMap.2 ⟨simple, member, used⟩
  have brought : ∀ simple ∈ simples, ∀ label ∈ simple.label?,
    label ∈ simples.filterMap Simple.label? :=
    fun simple member label labelled => List.mem_filterMap.2 ⟨simple, member, labelled⟩
  have nothing : Bounded (simples.flatMap Simple.names) [] [] :=
    ⟨List.forall_mem_nil _, List.forall_mem_nil _⟩
  obtain ⟨last, final, printed, ended, run, mirrors⟩ :=
    Mirrors.run simples integral linear brought [] {} _ []
    (.start simples) (fun _ => Iff.rfl) (List.forall_mem_nil _) scope once words
  have items :=
    assembly_lines laid integral (fun simple member =>
      Simple.isFlat_of_isLinear (linear simple member))
    (fun simple member name used => identifiers name (inside simple member name used)) scope
  have interpreted : interpret source = .ok last.store := by
    rw [interpret_lines laid]
    have run := run_store apart (Record.ofSource source) simples integral inside [] {} scope nothing
    rw [ended] at run
    exact run
  have executed : Mips.execute (Mips.listing (assembly simples)) = some (printed.map Prod.snd) := by
    rw [Mips.execute, Mips.assemble_listing (isPlain_assembly whole linear), Option.bind_some,
      run_assembly once entry run, mirrors.printed]
  rw [items]
  exact ⟨printed, rfl, executed, last.store, interpreted, mirrors.output⟩

theorem back_ends_agree_balance :
    let name (chars : List Char) (well : isName chars = true) : Name := ⟨chars, well⟩
    let total : Expression :=
      ⟨.number (.integer ['6'] rfl) .space,
        .more .times .space (.number (.integer ['7'] rfl) .space)
      (.more .minus .space (.number (.integer ['5', '0'] rfl) .empty) .done)⟩
    let next : Expression :=
      ⟨.name (name ['b'] rfl) .space, .more .times .space (.name (name ['b'] rfl) .space)
      (.more .plus .space (.name (name ['c'] rfl) .empty) .done)⟩
    let simples : List Simple :=
      [.initialized .int ⟨.space, by decide⟩ (name ['b'] rfl) .space .space total,
      .declared .int ⟨.space, by decide⟩ (name ['c'] rfl), .printed (name ['b'] rfl),
      .assigned (name ['c'] rfl) .space .space next, .printed (name ['c'] rfl)]
    let source := "int b = 6 * 7 - 50;\nint c;\nprint(b);\nc = b * b + c;\nprint(c);"
    Laid source (simples.map Simple.text) ∧ Accepted source ∧
      (∀ simple ∈ simples, simple.isLinear = true) ∧
      inWords {} simples = true ∧
      ∃ printed : List (String × Int), (Mips.ofSource source).error = none ∧
        Mips.execute (Mips.listing (Mips.ofSource source).items) = some (printed.map Prod.snd) ∧
        ∃ store, interpret source = .ok store ∧
          store.output = printed.map fun entry => Store.line entry.1 (toString entry.2) := by
  intro name total next simples source
  have laid : Laid source (simples.map Simple.text) := by decide +kernel
  have accepted : Accepted source := by decide +kernel
  have linear : ∀ simple ∈ simples, simple.isLinear = true := by decide +kernel
  have words : inWords {} simples = true := by decide +kernel
  exact ⟨laid, accepted, linear, words,
    back_ends_agree source simples laid accepted (by decide +kernel)
    (by decide +kernel) (by decide +kernel) linear words⟩

/-- A product after a sum: the listing adds first. -/
theorem back_ends_differ :
    let source := "int a = 1 + 2 * 3;\nprint(a);"
    Accepted source ∧ Mips.execute (Mips.listing (Mips.ofSource source).items) = some [9] ∧
      (interpret source).map Store.result = .ok "a = 7" := by
  intro source
  have plain : ∀ item ∈ (Mips.ofSource source).items, item.isPlain = true := by decide +kernel
  rw [Mips.execute, Mips.assemble_listing plain]
  decide +kernel

end Program

end Workbench
