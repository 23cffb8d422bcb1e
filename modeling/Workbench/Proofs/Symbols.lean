import Workbench.Proofs.Ledger
import Workbench.Proofs.Typing

/-! The table of symbols, read off the tokens alone.

A declared name is recorded with the type of its initial value, not with the type that the word in
front of it names. The value is what stands between the equals sign behind the name and the next
semicolon; its names have the types they were recorded with before.
-/

set_option autoImplicit false

namespace Workbench

namespace Table

variable {α : Type} (table : Table α) (name : String) (value : α)

def declare : Table α := if table.contains name then table else table.add name value

theorem get?_declare (key : String) :
    (table.declare name value).get? key =
      (table.get? key).or (if key = name then some value else none) := by
  unfold declare
  split
  · next known =>
    by_cases same : key = name
    · subst same
      obtain ⟨held, found⟩ := Option.isSome_iff_exists.1 known
      rw [found, Option.some_or]
    · rw [if_neg same, Option.or_none]
  · by_cases same : key = name
    · simp [get?, add, List.lookup_append, same]
    · simp [get?, add, List.lookup_append, List.lookup_cons, beq_eq_false_iff_ne.2 same, same]

def typeOf (symbols : Table (Option TypeName)) (name : String) : Option TypeName :=
  (symbols.get? name).join

theorem settled_declare {symbols : Table (Option TypeName)} (settled : Settled symbols.typeOf)
    {type : Option TypeName} (new : ∀ found, type = some found → found = .int ∨ found = .float) :
    Settled (symbols.declare name type).typeOf := by
  intro key found typed
  rw [typeOf, get?_declare] at typed
  cases known : symbols.get? key with
  | some held =>
    rw [known, Option.some_or] at typed
    exact settled key found (by rw [typeOf, known, typed])
  | none =>
    rw [known, Option.none_or] at typed
    split at typed
    · exact new found typed
    · cases typed

end Table

theorem Analyser.symbols_declare (name : String) (type : Option TypeName) (analyser : Analyser) :
    (analyser.declare name type).symbols = analyser.symbols.declare name type := by
  unfold declare Table.declare
  split <;> rfl

theorem Analyser.symbols_assign (name : String) (type : Option TypeName) (analyser : Analyser) :
    (analyser.assign name type).symbols = analyser.symbols := by
  unfold assign
  repeat' split
  all_goals rfl

/-! ## Declarations -/

def initialValue : List Token → List Token
  | [] => []
  | sign :: rest => if sign.kind = .assign then rest.takeWhile (·.kind != .semicolon) else []

/-- The name that is declared behind the word for a type, with its value. -/
def declaration? (word : Token) : List Token → Option (String × List Token)
  | [] => none
  | name :: rest =>
    if word.kind.isTypeWord = true ∧
      name.kind = .identifier then some (name.lexeme, initialValue rest) else none

def recordFirst (word : Token) (rest : List Token) (symbols : Table (Option TypeName)) :
    Table (Option TypeName) :=
  match declaration? word rest with
  | none => symbols
  | some (name, value) => symbols.declare name (valueType symbols.typeOf value)

/-- The symbols after the declarations among some tokens. -/
def recorded : List Token → Table (Option TypeName) → Table (Option TypeName)
  | [], symbols => symbols
  | word :: rest, symbols => recorded rest (recordFirst word rest symbols)

theorem recordFirst_plain {word : Token} (plain : word.kind.isTypeWord = false) (rest : List Token)
    (symbols : Table (Option TypeName)) : recordFirst word rest symbols = symbols := by
  cases rest <;> simp [recordFirst, declaration?, plain]

theorem recorded_append {tokens : List Token}
    (plain : ∀ token ∈ tokens, token.kind.isTypeWord = false)
    (rest : List Token) (symbols : Table (Option TypeName)) :
    recorded (tokens ++ rest) symbols = recorded rest symbols := by
  induction tokens with
  | nil => rfl
  | cons token tokens ih =>
    obtain ⟨first, others⟩ := List.forall_mem_cons.1 plain
    rw [List.cons_append, recorded, recordFirst_plain first, ih others]

/-! ## Places -/

namespace Places

variable (tokens : List Token)

def valueAt (index : Nat) : List Token := initialValue (tokens.drop (index + 1))

/-- The symbols that are declared before a place. -/
def symbolsBefore : Nat → Table (Option TypeName)
  | 0 => {}
  | index + 1 =>
    match declaredAt tokens index with
    | none => symbolsBefore index
    | some name =>
      (symbolsBefore index).declare name
        (valueType (symbolsBefore index).typeOf (valueAt tokens index))

section
variable {tokens}

theorem get?_symbolsBefore_succ (name : String) (index : Nat) :
    (symbolsBefore tokens (index + 1)).get? name = ((symbolsBefore tokens index).get? name).or
      (if declaredAt tokens index = some name then
        some (valueType (symbolsBefore tokens index).typeOf (valueAt tokens index)) else none) := by
  rw [symbolsBefore]
  cases declaredAt tokens index with
  | none => simp
  | some other => simp [Table.get?_declare, eq_comm]

theorem isSome_get?_symbolsBefore {name : String} {index : Nat} :
    ((symbolsBefore tokens index).get? name).isSome = true ↔ DeclaredBefore tokens name index := by
  induction index with
  | zero => simp [symbolsBefore, Table.get?, DeclaredBefore]
  | succ index ih =>
    rw [get?_symbolsBefore_succ, declaredBefore_succ, ← ih, Option.isSome_or, Bool.or_eq_true]
    split <;> simp [*]

theorem get?_symbolsBefore_mono {name : String} {earlier later : Nat} (le : earlier ≤ later)
    (declared : DeclaredBefore tokens name earlier) :
    (symbolsBefore tokens later).get? name = (symbolsBefore tokens earlier).get? name := by
  induction later, le using Nat.le_induction with
  | base => rfl
  | succ later le ih =>
    obtain ⟨type, found⟩ := Option.isSome_iff_exists.1 (isSome_get?_symbolsBefore.2 declared)
    rw [get?_symbolsBefore_succ, ih, found, Option.some_or]

theorem declaration?_eq {index : Nat} {word : Token} {rest : List Token}
    (here : tokens.drop index = word :: rest) :
    declaration? word rest = (declaredAt tokens (index + 1)).map fun name =>
      (name, valueAt tokens (index + 1)) := by
  have behind : tokens.drop (index + 1) = rest := by rw [← List.tail_drop, here, List.tail_cons]
  have found : tokens[index]? = some word := by rw [← List.head?_drop, here, List.head?_cons]
  have next : tokens[index + 1]? = rest.head? := by rw [← List.head?_drop, behind]
  have value : valueAt tokens (index + 1) = initialValue rest.tail := by
    rw [valueAt, ← List.tail_drop, behind]
  rw [declaredAt, afterWordAt, wordAt, nameAt, found, next, value, Option.any_some]
  cases rest with
  | nil => simp [declaration?]
  | cons name rest =>
    by_cases isWord : word.kind.isTypeWord = true
    · by_cases isName : name.kind = .identifier
      · simp [declaration?, isWord, isName, Option.filter]
      · simp [declaration?, isName, Option.filter]
    · simp [declaration?, isWord]

theorem recordFirst_eq {index : Nat} {word : Token} {rest : List Token}
    (here : tokens.drop index = word :: rest) :
    recordFirst word rest (symbolsBefore tokens (index + 1)) =
      symbolsBefore tokens (index + 2) := by
  rw [recordFirst, declaration?_eq here]
  conv_rhs => rw [symbolsBefore]
  cases declaredAt tokens (index + 1) <;> rfl

theorem recorded_drop (index : Nat) :
    recorded tokens {} = recorded (tokens.drop index) (symbolsBefore tokens (index + 1)) := by
  induction index with
  | zero => rfl
  | succ index ih =>
    rw [ih, ← List.tail_drop]
    cases here : tokens.drop index with
    | nil =>
      have absent : tokens[index + 1]? = none := by
        rw [List.getElem?_eq_none_iff]
        exact Nat.le_succ_of_le (List.drop_eq_nil_iff.1 here)
      simp [recorded, symbolsBefore, declaredAt, nameAt, absent]
    | cons word rest => rw [recorded, List.tail_cons, recordFirst_eq here]

theorem recorded_eq : recorded tokens {} = symbolsBefore tokens (tokens.length + 1) := by
  rw [recorded_drop tokens.length, List.drop_length]
  rfl

/-- Where a name is declared for the first time, its type is that of its value, in which names have
the types they were declared with before. -/
theorem get?_recorded {name : String} {index : Nat} (declared : declaredAt tokens index = some name)
    (first : ¬ DeclaredBefore tokens name index) :
    (recorded tokens {}).get? name = some (valueType
      (fun other => if DeclaredBefore tokens other index then
        (recorded tokens {}).typeOf other else none)
      (valueAt tokens index)) := by
  have bound : index < tokens.length := by
    have named : (nameAt tokens index).isSome = true := by
      obtain ⟨_, -, -, named⟩ := declaredAt_eq_some.1 declared
      rw [named, Option.isSome_some]
    by_contra outside
    simp [nameAt, List.getElem?_eq_none (Nat.le_of_not_lt outside)] at named
  -- At the declaration, what is known are the earlier ones, and their types stay.
  have known : (symbolsBefore tokens index).typeOf =
      fun other => if DeclaredBefore tokens other index then
        (recorded tokens {}).typeOf other else none := by
    funext other
    split
    · next before =>
      have kept := get?_symbolsBefore_mono (show index ≤ tokens.length + 1 by omega) before
      rw [Table.typeOf, Table.typeOf, recorded_eq, kept]
    · next never =>
      rw [← isSome_get?_symbolsBefore, Option.not_isSome_iff_eq_none] at never
      rw [Table.typeOf, never]
      rfl
  have new : (symbolsBefore tokens index).get? name = none := by
    rwa [← isSome_get?_symbolsBefore, Option.not_isSome_iff_eq_none] at first
  have here : DeclaredBefore tokens name (index + 1) := declaredBefore_succ.2 (Or.inr declared)
  rw [← known, recorded_eq, get?_symbolsBefore_mono (by omega) here, get?_symbolsBefore_succ, new,
    if_pos declared, Option.none_or]

end

end Places

namespace Syntax

/-- The symbols there will be, once the declarations still to come are recorded. -/
def State.outlook (state : State) : Table (Option TypeName) :=
  recorded state.rest state.analyser.symbols

/-- Between two states everything declared was recorded, with `int`, `float` or no type. -/
def Follows (start next : State) : Prop :=
  Settled start.analyser.symbols.typeOf → Settled next.analyser.symbols.typeOf ∧
    next.outlook = start.outlook

namespace Follows

variable {start middle next : State}

theorem trans (left : Follows start middle) (right : Follows middle next) : Follows start next := by
  intro settled
  obtain ⟨settled, same⟩ := left settled
  obtain ⟨settled, same'⟩ := right settled
  exact ⟨settled, same'.trans same⟩

theorem of_plain {taken : List Token} (rest : start.rest = taken ++ next.rest)
    (symbols : next.analyser.symbols = start.analyser.symbols)
    (plain : ∀ token ∈ taken, token.kind.isTypeWord = false) : Follows start next := by
  intro settled
  refine ⟨symbols ▸ settled, ?_⟩
  rw [State.outlook, State.outlook, rest, recorded_append plain, symbols]

theorem of_alike (alike : Alike start next) : Follows start next :=
  of_plain (show start.rest = [] ++ next.rest from alike.rest.symm)
    (by rw [alike.analyser]) (by simp)

end Follows

theorem initialValue_of_taken {sign : Token} {value rest : List Token}
    (assign : sign.kind = .assign)
    (inner : ∀ token ∈ value, token.kind.isInner = true)
    (ended : ∀ token ∈ rest.head?, token.kind = .semicolon) :
    initialValue (sign :: (value ++ rest)) = value := by
  have inside : ∀ token ∈ value, (token.kind != .semicolon) = true := by
    intro token member
    have kind := inner token member
    rw [Kind.isInner, Bool.and_eq_true] at kind
    exact kind.2
  rw [initialValue, if_pos assign, List.takeWhile_append_of_pos inside]
  cases rest with
  | nil => rw [List.takeWhile_nil, List.append_nil]
  | cons semicolon rest =>
    have closing : semicolon.kind = .semicolon := ended semicolon (by simp)
    rw [List.takeWhile_cons_of_neg (by simp [closing]), List.append_nil]

theorem symbols_declarator {state : State} {name : Token}
    (named : state.meets .identifier = some name) :
    (declarator state).next.analyser.symbols =
      (initializer state.advance).next.analyser.symbols.declare name.lexeme
      ((initializer state.advance).type.map TypeName.settle) := by
  unfold declarator
  simp only [named]
  exact Analyser.symbols_declare ..

theorem type_initializer_still {state : State} (still : state.meets .assign = none) :
    (initializer state).type = none := by
  unfold initializer
  simp only [still]
  rfl

theorem type_initializer_step {state : State} {sign : Token}
    (signed : state.meets .assign = some sign) :
    (initializer state).type = (expression state.advance).type := by
  unfold initializer
  simp only [signed]

theorem rest_declarator {state : State} {name : Token}
    (named : state.meets .identifier = some name) :
    (declarator state).next.rest = (initializer state.advance).next.rest := by
  obtain ⟨before, type, told, next⟩ := next_declarator_step named
  rw [next, State.rest_declare, told.rest]

theorem expression_valued {state : State} (settled : Settled state.analyser.symbols.typeOf)
    (ended : ∀ token ∈ (expression state).next.rest.head?, token.kind = .semicolon) :
    ∃ value, state.rest = value ++ (expression state).next.rest ∧
      (∀ token ∈ value, token.kind.isInner = true) ∧
      (expression state).next.analyser.symbols = state.analyser.symbols ∧
      (expression state).type.map TypeName.settle =
        valueType state.analyser.symbols.typeOf value := by
  obtain ⟨value, judged, type⟩ := expression_type settled
  refine ⟨value, judged.rest, judged.inner, judged.symbols, ?_⟩
  have rest := judged.rest
  cases left : (expression state).next.rest with
  | nil =>
    rw [left, List.append_nil] at rest
    rw [type, rest]
    rfl
  | cons semicolon others =>
    have closing : semicolon.kind = .semicolon :=
      ended semicolon (by rw [left, List.head?_cons, Option.mem_some])
    rw [left] at rest
    rw [type, rest, leadingType_append value (by simp [closing]) (by simp [operandType, closing])]
    rfl

theorem expression_closed {state : State} (settled : Settled state.analyser.symbols.typeOf)
    {semicolon : Token}
    {others : List Token} (closed : (expression state).next.rest = semicolon :: others)
    (closing : semicolon.kind = .semicolon) :
    ∃ value, state.rest = value ++ semicolon :: others ∧
      (∀ token ∈ value, token.kind.isInner = true) ∧
      (expression state).next.analyser.symbols = state.analyser.symbols ∧
      (expression state).type.map TypeName.settle =
        valueType state.analyser.symbols.typeOf value := by
  rw [← closed]
  exact expression_valued settled (by simpa [closed] using closing)

theorem declarator_records {start : State}
    (settled : Settled start.analyser.symbols.typeOf) {word : Token}
    (isWord : word.kind.isTypeWord = true) {semicolon : Token} {others : List Token}
    (closed : (declarator start).next.rest = semicolon :: others)
    (closing : semicolon.kind = .semicolon) :
    ∃ taken, start.rest = taken ++ semicolon :: others ∧
      (∀ token ∈ taken, token.kind.isTypeWord = false) ∧
      (declarator start).next.analyser.symbols =
        recordFirst word start.rest start.analyser.symbols := by
  cases named : start.meets .identifier with
  | none =>
    rw [next_declarator_still named] at closed ⊢
    refine ⟨[], closed, by simp, ?_⟩
    simp [closed, recordFirst, declaration?, closing]
  | some name =>
    obtain ⟨isName, rest, first⟩ := State.meets_eq_some.1 named
    have plainName : name.kind.isTypeWord = false := by rw [isName]; rfl
    rw [rest_declarator named] at closed
    rw [symbols_declarator named]
    cases signed : start.advance.meets .assign with
    | none =>
      rw [next_initializer_still signed] at closed ⊢
      rw [State.rest_advance, first, List.tail_cons] at closed
      refine ⟨[name], by rw [first, closed]; rfl, by simpa using plainName, ?_⟩
      simp [type_initializer_still signed, first, closed, recordFirst, declaration?, isWord, isName,
        initialValue, closing, valueType, leadingType]
    | some sign =>
      obtain ⟨isAssign, rest', second⟩ := State.meets_eq_some.1 signed
      have read := next_initializer_step signed
      rw [read.rest] at closed
      -- The value ends at the semicolon, so that it is what stands between the two signs.
      obtain ⟨value, third, inner, symbols, type⟩ :=
        expression_closed (by simpa using settled) closed closing
      rw [State.rest_advance, second, List.tail_cons] at third
      rw [State.rest_advance, first, List.tail_cons] at second
      subst second third
      refine ⟨name :: sign :: value, first, ?_, ?_⟩
      · have plainSign : sign.kind.isTypeWord = false := by rw [isAssign]; rfl
        refine List.forall_mem_cons.2 ⟨plainName,
          List.forall_mem_cons.2 ⟨plainSign, fun token member => ?_⟩⟩
        exact Kind.not_isTypeWord_of_isInner (inner token member)
      · have ended : ∀ token ∈ (semicolon :: others).head?, token.kind = .semicolon := by
          simpa using closing
        rw [type_initializer_step signed, type, read.analyser, symbols, first]
        simp [recordFirst, declaration?, isWord, isName, initialValue_of_taken isAssign inner ended]

theorem Follows.declaration {start : State} {word : Token} {rest : List Token}
    (first : start.rest = word :: rest)
    (isWord : word.kind.isTypeWord = true) {semicolon : Token} {others : List Token}
    (closed : (declarator start.advance).next.rest = semicolon :: others)
    (closing : semicolon.kind = .semicolon) :
    Follows start ((declarator start.advance).next.expect .semicolon) := by
  intro settled
  obtain ⟨taken, split, plain, symbols⟩ :=
    declarator_records (by simpa using settled) isWord closed closing
  rw [State.rest_advance, first, List.tail_cons] at split symbols
  rw [State.analyser_advance] at symbols
  obtain ⟨after, -⟩ := State.expect_found closed closing
  constructor
  · rw [State.analyser_expect, symbols, recordFirst]
    split
    · exact settled
    · exact Table.settled_declare _ settled fun found typed => settled.valueType typed
  · have skipped : recorded rest (recordFirst word rest start.analyser.symbols) =
        recorded others (recordFirst word rest start.analyser.symbols) := by
      rw [split, recorded_append plain, recorded, recordFirst_plain (by rw [closing]; rfl)]
    rw [State.outlook, State.outlook, after, State.analyser_expect, symbols, first,
      recorded, skipped]

end Syntax

end Workbench
