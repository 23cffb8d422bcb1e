import Workbench.Proofs.Evaluation

/-! Integer arithmetic.

Without reals and without division a tree has a value in the integers, given those of its names.
Putting the values of variables into the text of the tree and evaluating what comes out gives just
that value.
-/

set_option autoImplicit false

namespace Workbench

def Formula.Limits.boundless (calls : Nat) : Formula.Limits where
  nesting := none
  reading := none
  height := none
  calls := calls

namespace Arithmetic

def Gap.empty : Gap := ⟨[], rfl⟩

def Gap.space : Gap := ⟨[' '], rfl⟩

def Name.string (name : Name) : String := String.ofList name.chars

def Part.isWhole : Part → Bool
  | .literal (.integer ..) | .sign _ => true
  | .literal (.real ..) => false
  | .connective sort => sort != .divide

def Expression.isWhole (expression : Expression) : Bool := expression.parts.all Part.isWhole

def integers (values : List Char → Int) : Algebra Int where
  number
    | .integer digits _ => Nat.ofDigitChars 10 digits 0
    | .real .. => 0
  name name := values name.chars
  signed minus operand := if minus then -operand else operand
  join
    | .plus, left, right => left + right
    | .minus, left, right => left - right
    | .times, left, right => left * right
    | .divide, _, _ => 0

def Expression.value (values : List Char → Int) (expression : Expression) : Int :=
  expression.fold (integers values)

theorem number_spelledInt (n : Int) : (spelledInt n).number = .int n := by
  simp only [Spelled.number, spelledInt, Numeral.number, negate, decide_eq_true_eq]
  split
  · rw [Number.int.injEq]
    omega
  · rw [Number.int.injEq]
    omega

theorem combine_integers {connective : Connective} (whole : connective ≠ .divide)
    (values : List Char → Int)
    (m n : Int) :
    combine connective (.int m) (.int n) = .ok (.int ((integers values).join connective m n)) := by
  cases connective with
  | plus => rfl
  | minus => rfl
  | times => rfl
  | divide => exact absurd rfl whole

theorem Expression.fold_whole (expression : Expression) (whole : expression.isWhole = true)
    (values : List Char → Int) :
    expression.fold (numbers fun chars => spelledInt (values chars)) =
      .ok (.int (expression.value values)) := by
  -- Part by part, the numbers stay integers and follow the arithmetic.
  have relates : ∀ part : Part, part.isWhole = true →
      part.Relates (fun outcome n => outcome = .ok (.int n)) (numbers fun chars =>
        spelledInt (values chars))
        (integers values) := by
    rintro (literal | minus | connective) kept
    · cases literal with
      | integer digits well =>
        have digit := (isDigits_iff.1 (Bool.and_eq_true_iff.1 well).1).2
        change Except.ok (Number.int (Formula.valueIn 10 digits)) = _
        rw [valueIn_of_digits digit]
        rfl
      | real digits places well => cases kept
    · rintro _ n rfl
      cases minus <;> rfl
    · rintro _ m _ n rfl rfl
      exact combine_integers (by simpa [Part.isWhole] using kept) values m n
  refine expression.fold_related (fun part member =>
    relates part (List.all_eq_true.1 whole part member))
    fun name _ => ?_
  change Except.ok (spelledInt (values name.chars)).number = _
  rw [number_spelledInt]
  rfl

/-- No name of a list stands inside a name of an expression, unless it is that name. -/
def Expression.Clear (names : List String) (expression : Expression) : Prop :=
  ∀ key ∈ names, ∀ name ∈ expression.names, key.toList <:+: name.chars → key = name.string

end Arithmetic

namespace Store

open Arithmetic

/-- Every variable holds a value that can be written out. -/
def Short (store : Store) : Prop := ∀ entry ∈ store.symbols.entries, entry.2.text?.isSome = true

def intOf (store : Store) (chars : List Char) : Int :=
  match store.symbols.get? (String.ofList chars) with
  | some (.int n) => n
  | _ => 0

theorem intOf_of_get? {store : Store} {name : Name} {n : Int}
    (holds : store.symbols.get? name.string = some (.int n)) : store.intOf name.chars = n := by
  rw [Name.string] at holds
  rw [intOf, holds]

theorem text?_of_get? {store : Store} (short : store.Short) {name : String} {value : Number}
    (holds : store.symbols.get? name = some value) : value.text?.isSome = true := by
  obtain ⟨front, back, split, -⟩ := List.lookup_eq_some_iff.1 holds
  exact short (name, value) (split ▸ by simp)

theorem fills_integers {store : Store} {expression : Expression}
    (named : Named store.symbols.entries)
    (short : store.Short) (clear : expression.Clear store.symbols.names)
    (held : ∀ name ∈ expression.names, ∃ n, store.symbols.get? name.string = some (.int n)) :
    Fills (filled store.symbols.entries)
    (fun chars => spelledInt (store.intOf chars)) expression.names := by
  intro name member
  obtain ⟨n, holds⟩ := held name member
  have written : (Number.int n).text?.isSome = true := text?_of_get? short holds
  obtain ⟨text, has_text⟩ := Option.isSome_iff_exists.1 written
  have replaced : filled store.symbols.entries name.string.toList = shown (.int n) := by
    refine filled_name named (untouched_int named written) (fun entry inside part => ?_) holds
    refine clear entry.1 (List.mem_map_of_mem inside) name member ?_
    rwa [Name.string, String.toList_ofList] at part
  rw [Name.string, String.toList_ofList] at replaced
  change (spelledInt (store.intOf name.chars)).Written (filled store.symbols.entries name.chars)
  rw [replaced, intOf_of_get? holds, shown, has_text]
  exact written_int has_text

theorem store_of_evaluate {store next : Store} {limits : Formula.Limits} {records : List Record}
    {expression : String}
    {value : Number}
    (evaluated : store.evaluate (.within limits) records expression = .ok (value, next)) :
    next = store := by
  unfold evaluate at evaluated
  cases replaced : substitute store.symbols.entries expression with
  | error error =>
    rw [replaced] at evaluated
    cases evaluated
  | ok text =>
    simp only [replaced, bind, Except.bind, Evaluator.within] at evaluated
    cases computed : Formula.evaluateWithin limits (store.setting records text) text with
    | error fault =>
      simp only [computed] at evaluated
      cases evaluated
    | ok number =>
      simp only [computed] at evaluated
      exact (Prod.mk.inj (Except.ok.inj evaluated)).2.symm

theorem evaluate_short {store : Store} (limits : Formula.Limits) (records : List Record)
    {expression : Expression} (named : Named store.symbols.entries) (short : store.Short) :
    let replaced := String.ofList (expression.text (filled store.symbols.entries))
    store.evaluate (.within limits) records (String.ofList (expression.text id)) =
      match Formula.evaluateWithin limits (store.setting records replaced) replaced with
      | .ok value => .ok (value, store)
      | .error fault => .error (.evaluation replaced fault) := by
  have written : (store.symbols.entries.all fun entry => entry.2.text?.isSome) = true :=
    List.all_eq_true.2 short
  intro replaced
  have substituted : substitute store.symbols.entries (String.ofList (expression.text id)) =
      .ok replaced := by
    rw [expression.substitute store.symbols.entries id named, if_pos written]
    rfl
  unfold evaluate
  rw [substituted]
  simp only [bind, Except.bind, Evaluator.within]
  cases Formula.evaluateWithin limits (store.setting records replaced) replaced <;> rfl

/-- A value that cannot be written out stops every evaluation, whether it is used or not. -/
theorem evaluate_long {store : Store} (evaluator : Evaluator) (records : List Record)
    {expression : Expression} (named : Named store.symbols.entries) (long : ¬ store.Short) :
    store.evaluate evaluator records (String.ofList (expression.text id)) = .error .tooLong := by
  have unwritten : ¬ (store.symbols.entries.all fun entry => entry.2.text?.isSome) = true :=
    fun all => long (List.all_eq_true.1 all)
  simp only [evaluate, expression.substitute store.symbols.entries id named, if_neg unwritten]
  rfl

theorem evaluate_whole {store : Store} {limits : Formula.Limits} {expression : Expression}
    (fits : expression.fits limits = true) (whole : expression.isWhole = true)
    (named : Named store.symbols.entries) (short : store.Short)
    (clear : expression.Clear store.symbols.names)
    (held : ∀ name ∈ expression.names, ∃ n, store.symbols.get? name.string = some (.int n))
    (records : List Record) :
    store.evaluate (.within limits) records (String.ofList (expression.text id)) =
      .ok (.int (expression.value store.intOf), store) := by
  rw [evaluate_short limits records named short,
    expression.evaluateWithin_fitting fits (fills_integers named short clear held),
    expression.fold_whole whole store.intOf]
  rfl

/-- Putting the texts of variables into a whole expression, one after the other and in whatever
order they came in, and evaluating what comes out gives the integer that the expression stands
for. -/
theorem whole_expression_value (store : Store) (records : List Record)
    (expression : Expression) (calls : Nat)
    (whole : expression.isWhole = true)
    (named : ∀ name ∈ store.symbols.names, isName name.toList = true)
    (short : ∀ entry ∈ store.symbols.entries, entry.2.text?.isSome = true)
    (held : ∀ name ∈ expression.names, ∃ n, store.symbols.get? name.string = some (.int n))
    (clear : ∀ key ∈ store.symbols.names, ∀ name ∈ expression.names,
      key.toList <:+: name.chars → key = name.string) :
    store.evaluate (.within (.boundless calls)) records (String.ofList (expression.text id)) =
      .ok (.int (expression.value store.intOf), store) :=
  evaluate_whole rfl whole (List.forall_mem_map.1 named) short clear held records

theorem whole_expression_value_negative :
    let name (chars : List Char) (well : isName chars = true) (after : Gap) : Operand :=
      .name ⟨chars, well⟩ after
    let number (digits : List Char) (well : isInteger digits = true) : Operand :=
      .number (.integer digits well) .empty
    let difference : Expression :=
      ⟨name ['a', '1'] rfl .space, .more .minus .space (name ['b'] rfl .empty) .done⟩
    let expression : Expression := ⟨number ['2'] rfl, .more .times .empty (name ['b'] rfl .empty)
      (.more .minus .empty (.group .empty difference .empty)
        (.more .times .empty (number ['3'] rfl) .done))⟩
    let store : Store := { symbols := ⟨[("b", .int (-5)), ("half", .float 0.5), ("a1", .int 3)]⟩ }
    expression.text id = "2*b-(a1 - b)*3".toList ∧ expression.value store.intOf = -34 ∧
      store.evaluate (.within (.boundless 0)) [] "2*b-(a1 - b)*3" = .ok (.int (-34), store) := by
  intro name number difference expression store
  have text : expression.text id = "2*b-(a1 - b)*3".toList := by decide
  have value : expression.value store.intOf = -34 := by decide
  refine ⟨text, value, ?_⟩
  have held : ∀ name ∈ expression.names, ∃ n, store.symbols.get? name.string = some (.int n) :=
    List.forall_mem_cons.2 ⟨⟨-5, rfl⟩,
      List.forall_mem_cons.2 ⟨⟨3, rfl⟩, List.forall_mem_cons.2 ⟨⟨-5, rfl⟩, List.forall_mem_nil _⟩⟩⟩
  have evaluated :=
    whole_expression_value store [] expression 0 (by decide) (by decide) (by decide +kernel) held
    (by decide)
  rw [text, value] at evaluated
  exact evaluated

end Store

end Workbench
