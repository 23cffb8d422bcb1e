import Workbench.Proofs.Layout

/-! What an expression sees of the variables.

As long as no variable is part of another name, an expression depends on the values of its own names
only, and nothing goes wrong in it but arithmetic. What variables hold after each statement keeps it
so.
-/

set_option autoImplicit false

namespace Workbench

namespace Arithmetic

section
variable {fill other : List Char → List Char}

mutual

theorem Operand.text_congr (operand : Operand)
    (same : ∀ name ∈ operand.names, fill name.chars = other name.chars) :
    operand.text fill = operand.text other := by
  cases operand with
  | number literal after => rfl
  | name name after => rw [Operand.text, Operand.text, same name (List.mem_singleton_self name)]
  | group before inside after => rw [Operand.text, Operand.text, inside.text_congr same]
  | signed minus after operand => rw [Operand.text, Operand.text, operand.text_congr same]

theorem Expression.text_congr (expression : Expression)
    (same : ∀ name ∈ expression.names, fill name.chars = other name.chars) :
    expression.text fill = expression.text other := by
  obtain ⟨first, rest⟩ := expression
  obtain ⟨same_first, same_rest⟩ := List.forall_mem_append.1 same
  rw [Expression.text, Expression.text, first.text_congr same_first, rest.text_congr same_rest]

theorem Chain.text_congr (chain : Chain)
    (same : ∀ name ∈ chain.names, fill name.chars = other name.chars) :
    chain.text fill = chain.text other := by
  cases chain with
  | done => rfl
  | more connective after operand rest =>
    obtain ⟨same_operand, same_rest⟩ := List.forall_mem_append.1 same
    rw [Chain.text, Chain.text, operand.text_congr same_operand, rest.text_congr same_rest]

end

open Classical in
theorem exists_fills {names : List Name}
    (written : ∀ name ∈ names, ∃ spelled : Spelled, spelled.Written (fill name.chars)) :
    ∃ spelling, Fills fill spelling names := by
  refine ⟨fun chars => if found : ∃ spelled : Spelled, spelled.Written (fill chars) then
    found.choose else spelledInt 0, ?_⟩
  intro name member
  have found := written name member
  simp only [found, dite_true]
  exact found.choose_spec

end

def Expression.isShallow (expression : Expression) : Bool :=
  Formula.allows Formula.Limits.standard.nesting expression.nesting

/-- What can go wrong once an expression has been read: arithmetic, or a result that is no
number. -/
def runFaults : List Formula.Fault := .undefinedToInt :: .infiniteToInt :: arithmeticFaults

end Arithmetic

namespace Store

open Arithmetic

/-- The names of an expression are variables with values, and no variable stands where it is not
meant. -/
structure Sees (store : Store) (expression : Expression) : Prop where
  named : Named store.symbols.entries
  letter : ∀ key ∈ store.symbols.names, key ≠ "e"
  clear : expression.Clear store.symbols.names
  held :
    ∀ name ∈ expression.names, ∃ value, store.symbols.get? name.string = some value ∧ Held value

section
variable {store other : Store} {records : List Record} {expression : Expression}

theorem Sees.filled (sees : store.Sees expression) (short : store.Short) {name : Name}
    (member : name ∈ expression.names)
    {value : Number} (holds : store.symbols.get? name.string = some value) (held : Held value) :
    filled store.symbols.entries name.chars = shown value := by
  have letter : ∀ entry ∈ store.symbols.entries, entry.1 ≠ "e" := fun entry inside =>
    sees.letter entry.1 (List.mem_map_of_mem inside)
  -- The text of a value holds no letter but that of an exponent, so that later replacements leave
  -- it alone.
  have untouched := untouched_shown sees.named letter held (text?_of_get? short holds)
  have replaced : Arithmetic.filled store.symbols.entries name.string.toList = shown value := by
    refine filled_name sees.named untouched (fun entry inside part => ?_) holds
    refine sees.clear entry.1 (List.mem_map_of_mem inside) name member ?_
    rwa [Name.string, String.toList_ofList] at part
  rwa [Name.string, String.toList_ofList] at replaced

theorem Sees.fills (sees : store.Sees expression) (short : store.Short) :
    ∃ spelling, Fills (Arithmetic.filled store.symbols.entries) spelling expression.names := by
  refine exists_fills fun name member => ?_
  obtain ⟨value, holds, held⟩ := sees.held name member
  rw [sees.filled short member holds held]
  exact written_shown held (text?_of_get? short holds)

/-- Stores in which the names of an expression hold the same evaluate it alike, whatever records are
run. -/
theorem evaluate_congr (sees : store.Sees expression) (others : other.Sees expression)
    (short : store.Short) (short_other : other.Short) (shallow : expression.isShallow = true)
    (same : ∀ name ∈ expression.names, other.symbols.get? name.string =
      store.symbols.get? name.string)
    (records held : List Record) :
    other.evaluate .standard held (String.ofList (expression.text id)) =
      (store.evaluate .standard records (String.ofList (expression.text id))).map fun found =>
        (found.1, other) := by
  have text : expression.text (Arithmetic.filled other.symbols.entries) =
      expression.text (Arithmetic.filled store.symbols.entries) := by
    refine expression.text_congr fun name member => ?_
    obtain ⟨value, holds, held⟩ := sees.held name member
    rw [sees.filled short member holds held,
      others.filled short_other member ((same name member).trans holds) held]
  obtain ⟨spelling, fills⟩ := sees.fills short
  rw [Evaluator.standard, evaluate_short .standard held others.named short_other,
    evaluate_short .standard records sees.named short, text]
  simp only [expression.evaluateWithin shallow fills]
  generalize (do
    let _ ← Formula.checkedOfText .standard
      (expression.text (Arithmetic.filled store.symbols.entries))
    let number ← expression.fold (numbers spelling)
    Formula.toNumber (Arithmetic.value number) : Except Formula.Fault Number) = computed
  cases computed <;> rfl

theorem evaluate_records (sees : store.Sees expression) (shallow : expression.isShallow = true)
    (records held : List Record) :
    store.evaluate .standard held (String.ofList (expression.text id)) =
      store.evaluate .standard records (String.ofList (expression.text id)) := by
  by_cases short : store.Short
  · rw [evaluate_congr sees sees short short shallow (fun _ _ => rfl) records held]
    cases evaluated : store.evaluate .standard records (String.ofList (expression.text id)) with
    | error error => rfl
    | ok found =>
      obtain rfl : found.2 = store := store_of_evaluate evaluated
      rfl
  · rw [evaluate_long .standard held sees.named short,
      evaluate_long .standard records sees.named short]

theorem evaluate_held (sees : store.Sees expression) (shallow : expression.isShallow = true)
    {value : Number}
    {next : Store}
    (evaluated : store.evaluate .standard records (String.ofList (expression.text id)) =
      .ok (value, next)) :
    Held value := by
  by_cases short : store.Short
  · obtain ⟨spelling, fills⟩ := sees.fills short
    rw [Evaluator.standard, evaluate_short .standard records sees.named short] at evaluated
    simp only [expression.evaluateWithin shallow fills, bind, Except.bind] at evaluated
    -- Reading and computing may fail; a number that comes out is held unless it is refused at the
    -- end.
    cases read :
      Formula.checkedOfText .standard
        (expression.text (Arithmetic.filled store.symbols.entries)) with
    | error fault => simp [read] at evaluated
    | ok formula =>
      cases computed : expression.fold (numbers spelling) with
      | error fault => simp [read, computed] at evaluated
      | ok number =>
        simp only [read, computed] at evaluated
        rcases toNumber_held number with undefined | infinite | ⟨result, held, is_result⟩
        · simp [undefined] at evaluated
        · simp [infinite] at evaluated
        · simp only [is_result, Except.ok.injEq, Prod.mk.injEq] at evaluated
          exact evaluated.1 ▸ held
  · rw [evaluate_long .standard records sees.named short] at evaluated
    cases evaluated

/-- Nothing goes wrong in an expression that can be read but arithmetic, or the writing out of a
variable. -/
theorem evaluate_faults (sees : store.Sees expression) (fits : expression.fits .standard = true)
    {error : RunError}
    (failed : store.evaluate .standard records (String.ofList (expression.text id)) =
      .error error) :
    error = .tooLong ∨ ∃ text fault, error = .evaluation text fault ∧ fault ∈ runFaults := by
  by_cases short : store.Short
  · obtain ⟨spelling, fills⟩ := sees.fills short
    rw [Evaluator.standard, evaluate_short .standard records sees.named short] at failed
    simp only [expression.evaluateWithin_fitting fits fills, bind, Except.bind] at failed
    right
    cases computed : expression.fold (numbers spelling) with
    | error fault =>
      simp only [computed, Except.error.injEq] at failed
      have arithmetical := expression.arithmetical spelling fault computed
      exact ⟨_, fault, failed.symm, List.mem_cons_of_mem _ (List.mem_cons_of_mem _ arithmetical)⟩
    | ok number =>
      simp only [computed] at failed
      rcases toNumber_held number with undefined | infinite | ⟨result, -, is_result⟩
      · simp only [undefined, Except.error.injEq] at failed
        exact ⟨_, .undefinedToInt, failed.symm, by decide⟩
      · simp only [infinite, Except.error.injEq] at failed
        exact ⟨_, .infiniteToInt, failed.symm, by decide⟩
      · simp [is_result] at failed
  · rw [evaluate_long .standard records sees.named short] at failed
    exact Or.inl (Except.error.inj failed).symm

end

end Store

namespace Program

open Arithmetic

def TypeWord.zero : TypeWord → Number
  | int => .int 0
  | float => .float 0.0

theorem TypeWord.held_zero : (type : TypeWord) → Held type.zero
  | int => trivial
  | float => by
    have zero : Number.Binary64.ofFloat 0.0 = .finite false 0 (-1074) := by decide +kernel
    rw [TypeWord.zero, Held, isFinite, zero]

def Simple.scope (declared : List String) : Simple → List String
  | initialized _ _ name _ _ _ => name.string :: declared
  | .declared .. | assigned .. | printed _ => declared

def settled (declared : List String) : List Simple → Bool
  | [] => true
  | simple :: rest =>
    (simple.operands.all fun name => (simple.scope declared).contains name.string) &&
      settled (simple.subject.string :: declared) rest

theorem settled_cons {declared : List String} {simple : Simple} {rest : List Simple} :
    settled declared (simple :: rest) = true ↔
      (∀ name ∈ simple.operands, name.string ∈ simple.scope declared) ∧
        settled (simple.subject.string :: declared) rest = true := by
  simp [settled]

theorem settled_of_inScope {declared : List String} {simples : List Simple}
    (scope : inScope declared simples = true) :
    settled declared simples = true := by
  induction simples generalizing declared with
  | nil => rfl
  | cons simple rest ih =>
    obtain ⟨known, scope⟩ := inScope_cons.1 scope
    refine settled_cons.2 ⟨fun name member => ?_, ih scope⟩
    have listed := known name (Simple.operands_uses member)
    cases simple with
    | initialized => exact List.mem_cons_of_mem _ listed
    | declared | assigned | printed => exact listed

def Unlettered (names : List Name) : Prop := ∀ name ∈ names, name.chars ≠ ['e']

instance (names : List Name) : Decidable (Unlettered names) :=
  inferInstanceAs (Decidable (∀ _ ∈ names, _))

def Simple.isShallow (simple : Simple) : Bool := simple.value?.all Expression.isShallow

/-- The variables of a running program and what they hold. -/
structure Steady (names : List Name) (declared : List String) (store : Store) : Prop where
  bounded : Bounded names declared store.symbols.names
  held : ∀ entry ∈ store.symbols.entries, Held entry.2

section
variable {names : List Name} {declared : List String} {store : Store}

theorem Bounded.unlettered {known : List String} (bounded : Bounded names declared known)
    (letter : Unlettered names) :
    ∀ key ∈ known, key ≠ "e" := by
  intro key listed same
  obtain ⟨name, member, rfl⟩ := bounded.within key listed
  refine letter name member ?_
  rw [Name.string] at same
  exact String.ofList_injective same

theorem Bounded.sees (bounded : Bounded names declared store.symbols.names) (apart : Apart names)
    (letter : Unlettered names) {value : Expression} (inside : ∀ name ∈ value.names, name ∈ names)
    (held : ∀ name ∈ value.names, ∃ number, store.symbols.get? name.string = some number ∧
      Held number) :
    store.Sees value where
  named := List.forall_mem_map.1 bounded.named
  letter := bounded.unlettered letter
  clear := bounded.clear apart inside
  held := held

theorem Steady.get? (steady : Steady names declared store) {key : String}
    (listed : key ∈ declared) :
    ∃ number, store.symbols.get? key = some number ∧ Held number := by
  have known := steady.bounded.covers key listed
  obtain ⟨number, found⟩ := Option.isSome_iff_exists.1 ((store.symbols.get?_isSome_iff key).2 known)
  obtain ⟨front, back, split, -⟩ := List.lookup_eq_some_iff.1 found
  exact ⟨number, found, steady.held (key, number) (split ▸ by simp)⟩

theorem Steady.put (steady : Steady names declared store) {name : Name} (member : name ∈ names)
    {number : Number} (held : Held number) :
    Steady names (name.string :: declared)
    { store with symbols := store.symbols.put name.string number } where
  bounded := steady.bounded.put member number
  held := by
    intro entry listed
    rcases (Table.mem_put ..).1 listed with rfl | ⟨listed, -⟩
    · exact held
    · exact steady.held entry listed

def Simple.ready (store : Store) : Simple → Store
  | initialized type _ name _ _ _ =>
    { store with symbols := store.symbols.put name.string type.zero }
  | .declared .. | assigned .. | printed _ => store

theorem begin_eq (type : TypeWord) (name : Name) (store : Store) :
    store.begin type.chars name.chars = { store with symbols := store.symbols.put name.string type.zero } := by
  cases type <;> rfl

/-- A statement with a value sets its subject. -/
theorem Simple.exec_value {simple : Simple} {value : Expression}
    (valued : simple.value? = some value) (records : List Record) (store : Store) :
    simple.exec records store =
      (simple.ready store).set .standard records simple.subject.chars (value.text id) := by
  cases simple with
  | declared | printed => cases valued
  | initialized type space name before after initial =>
    obtain rfl := Option.some.inj valued
    rw [exec, line, Line.exec, begin_eq]
    rfl
  | assigned name before after next =>
    obtain rfl := Option.some.inj valued
    rfl

theorem Simple.subject_mem {simple : Simple} (inside : ∀ name ∈ simple.names, name ∈ names) :
    simple.subject ∈ names :=
  inside _ (List.mem_cons_self ..)

theorem Simple.operands_eq {simple : Simple} {value : Expression}
    (valued : simple.value? = some value) :
    simple.operands = value.names := by
  rw [operands, valued]
  rfl

theorem Steady.ready_bounded (steady : Steady names declared store) {simple : Simple}
    (inside : simple.subject ∈ names) :
    Bounded names (simple.scope declared) (simple.ready store).symbols.names := by
  cases simple with
  | initialized => exact steady.bounded.put inside _
  | declared | assigned | printed => exact steady.bounded

theorem Steady.ready_held (steady : Steady names declared store) {simple : Simple}
    {value : Expression}
    (valued : simple.value? = some value) {name : Name} (member : name ∈ value.names)
    (known : name.string ∈ simple.scope declared) :
    ∃ number, (simple.ready store).symbols.get? name.string = some number ∧ Held number := by
  cases simple with
  | declared | printed => cases valued
  | assigned => exact steady.get? known
  | initialized type space subject before after initial =>
    obtain rfl := Option.some.inj valued
    simp only [Simple.ready, Table.get?_put]
    by_cases same : name.string = subject.string
    · rw [if_pos same]
      exact ⟨_, rfl, type.held_zero⟩
    · rw [if_neg same]
      exact steady.get? ((List.mem_cons.1 known).resolve_left same)

theorem Steady.sees (steady : Steady names declared store) (apart : Apart names)
    (letter : Unlettered names)
    {simple : Simple} {value : Expression} (valued : simple.value? = some value)
    (inside : ∀ name ∈ simple.names, name ∈ names)
    (known : ∀ name ∈ simple.operands, name.string ∈ simple.scope declared) :
    (simple.ready store).Sees value := by
  have operands := Simple.operands_eq valued
  refine (steady.ready_bounded (Simple.subject_mem inside)).sees apart letter (fun name member =>
    ?_) fun name member => ?_
  · exact inside name (List.mem_cons_of_mem _ (operands ▸ member))
  · exact steady.ready_held valued member (known name (operands ▸ member))

theorem Steady.settle (steady : Steady names declared store) {simple : Simple}
    (inside : simple.subject ∈ names) {number : Number} (held : Held number) :
    Steady names (simple.subject.string :: declared)
      { simple.ready store with
        symbols := (simple.ready store).symbols.put simple.subject.string number } where
  bounded := by
    have again := (steady.ready_bounded inside).put inside number
    refine ⟨again.within, fun key listed => again.covers key ?_⟩
    cases simple with
    | initialized => exact List.mem_cons_of_mem _ listed
    | declared | assigned | printed => exact listed
  held := by
    intro entry listed
    rcases (Table.mem_put ..).1 listed with rfl | ⟨listed, other⟩
    · exact held
    · -- A declaration with a value puts its variable twice; the first entry is gone.
      cases simple with
      | declared | assigned | printed => exact steady.held entry listed
      | initialized type space name before after value =>
        rcases (Table.mem_put ..).1 listed with rfl | ⟨listed, -⟩
        · exact absurd rfl other
        · exact steady.held entry listed

theorem set_ok {records : List Record} {name expression : List Char} {next : Store}
    (done : store.set .standard records name expression = .ok next) :
    ∃ number, store.evaluate .standard records (String.ofList expression) = .ok (number, store) ∧
      next = { store with symbols := store.symbols.put (String.ofList name) number } := by
  unfold Store.set at done
  cases evaluated : store.evaluate .standard records (String.ofList expression) with
  | error error =>
    rw [evaluated] at done
    cases done
  | ok found =>
    obtain ⟨number, after⟩ := found
    obtain rfl := Store.store_of_evaluate evaluated
    rw [evaluated] at done
    exact ⟨number, rfl, (Except.ok.inj done).symm⟩

theorem report_ok {name : List Char} {next : Store} (done : store.report name = .ok next) :
    next.symbols = store.symbols ∧ String.ofList name ∈ store.symbols.names := by
  unfold Store.report at done
  split at done
  · cases done
  case h_2 value found =>
    refine ⟨?_, (store.symbols.get?_isSome_iff _).1 (found ▸ rfl)⟩
    cases shown : Store.textOf value with
    | error error =>
      rw [shown] at done
      cases done
    | ok text =>
      rw [shown] at done
      obtain rfl := Except.ok.inj done
      rfl

theorem run_ok {records : List Record} {simple : Simple} {rest : List Simple} {last : Store}
    (done : (simple :: rest).foldlM (Simple.exec records) store = .ok last) :
    ∃ next, simple.exec records store = .ok next ∧
      rest.foldlM (Simple.exec records) next = .ok last := by
  rw [List.foldlM_cons] at done
  cases stepped : simple.exec records store with
  | error error =>
    rw [stepped] at done
    cases done
  | ok next =>
    rw [stepped] at done
    exact ⟨next, rfl, done⟩

/-- One statement keeps variables as they should be. -/
theorem Steady.exec (steady : Steady names declared store) (apart : Apart names)
    (letter : Unlettered names) {simple : Simple} (inside : ∀ name ∈ simple.names, name ∈ names)
    (known : ∀ name ∈ simple.operands, name.string ∈ simple.scope declared)
    (shallow : simple.isShallow = true) {records : List Record} {next : Store}
    (done : simple.exec records store = .ok next) :
    Steady names (simple.subject.string :: declared) next := by
  cases valued : simple.value? with
  | some value =>
    have sees := steady.sees apart letter valued inside known
    have shallow : value.isShallow = true := by simpa [Simple.isShallow, valued] using shallow
    rw [Simple.exec_value valued] at done
    obtain ⟨number, evaluated, rfl⟩ := set_ok done
    exact steady.settle (Simple.subject_mem inside) (Store.evaluate_held sees shallow evaluated)
  | none =>
    cases simple with
    | initialized | assigned => cases valued
    | declared type space name =>
      obtain rfl : store.begin type.chars name.chars = next := Except.ok.inj done
      rw [begin_eq]
      exact steady.put (Simple.subject_mem inside) type.held_zero
    | printed name =>
      obtain ⟨symbols, listed⟩ := report_ok done
      refine ⟨?_, symbols ▸ steady.held⟩
      rw [symbols]
      exact ⟨steady.bounded.within, List.forall_mem_cons.2 ⟨listed, steady.bounded.covers⟩⟩

theorem Steady.exec_records (steady : Steady names declared store) (apart : Apart names)
    (letter : Unlettered names) {simple : Simple} (inside : ∀ name ∈ simple.names, name ∈ names)
    (known : ∀ name ∈ simple.operands, name.string ∈ simple.scope declared)
    (shallow : simple.isShallow = true)
    (records held : List Record) : simple.exec held store = simple.exec records store := by
  cases valued : simple.value? with
  | some value =>
    have sees := steady.sees apart letter valued inside known
    have shallow : value.isShallow = true := by simpa [Simple.isShallow, valued] using shallow
    rw [Simple.exec_value valued, Simple.exec_value valued, Store.set, Store.set,
      Store.evaluate_records sees shallow records held]
  | none =>
    cases simple with
    | initialized | assigned => cases valued
    | declared | printed => rfl

end

end Program

end Workbench
