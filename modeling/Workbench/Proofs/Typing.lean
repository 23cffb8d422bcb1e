import Workbench.Proofs.Consumption
import Workbench.Proofs.Exhaustion

/-! The types of expressions, read off their tokens.

One operand that is a `float` makes the whole expression one, at whatever depth it stands. Without
such an operand the first one decides, if there is one: a sign in front of it leaves the expression
without a type.
-/

set_option autoImplicit false

namespace Workbench

def operandType (known : String → Option TypeName) (token : Token) : Option TypeName :=
  match token.kind with
  | .integer => some .int
  | .real => some .float
  | .identifier => known token.lexeme
  | _ => none

/-- The type of the operand that comes first, behind the parentheses that open there. -/
def leadingType (known : String → Option TypeName) (tokens : List Token) : Option TypeName :=
  (tokens.find? fun token => token.kind != .openParen).bind (operandType known)

def valueType (known : String → Option TypeName) (tokens : List Token) : Option TypeName :=
  if tokens.any fun token => operandType known token == some .float then some .float
  else leadingType known tokens

section
variable {known : String → Option TypeName} {token : Token}

theorem leadingType_group (opening : token.kind = .openParen) (rest : List Token) :
    leadingType known (token :: rest) = leadingType known rest := by
  simp [leadingType, opening]

theorem leadingType_alone (alone : token.kind ≠ .openParen) (rest : List Token) :
    leadingType known (token :: rest) = operandType known token := by
  simp [leadingType, alone]

theorem operandType_eq_float : operandType known token = some .float ↔
    token.kind = .real ∨ token.kind = .identifier ∧ known token.lexeme = some .float := by
  cases kind : token.kind <;> simp [operandType, kind]

theorem leadingType_of_ne_float {tokens : List Token}
    (other : leadingType known tokens ≠ some .float) :
    leadingType known tokens =
      (tokens.find? fun token => token.kind != .openParen).bind fun token =>
      if token.kind = .integer then some .int else if token.kind =
        .identifier then known token.lexeme else none := by
  unfold leadingType at other ⊢
  cases first : tokens.find? fun token => token.kind != .openParen with
  | none => rfl
  | some token =>
    rw [first, Option.bind_some] at other
    cases kind : token.kind <;> simp_all [operandType]

theorem leadingType_append (tokens : List Token) (alone : token.kind ≠ .openParen)
    (ended : operandType known token = none) (rest : List Token) :
    leadingType known (tokens ++ token :: rest) = leadingType known tokens := by
  induction tokens with
  | nil => rw [List.nil_append, leadingType_alone alone, ended]; rfl
  | cons first tokens ih =>
    by_cases opening : first.kind = .openParen
    · rw [List.cons_append, leadingType_group opening, leadingType_group opening, ih]
    · rw [List.cons_append, leadingType_alone opening, leadingType_alone opening]

end

def Settled (known : String → Option TypeName) : Prop :=
  ∀ name type, known name = some type → type = .int ∨ type = .float

namespace Settled

theorem of_entries {analyser : Analyser}
    (typed : ∀ entry ∈ analyser.symbols.entries, entry.2 = none ∨ entry.2 = some .int ∨
      entry.2 = some .float) :
    Settled fun name => analyser.typeOf name := by
  intro name type known
  have found : analyser.symbols.get? name = some (some type) := Option.join_eq_some_iff.1 known
  obtain ⟨front, back, split, -⟩ := List.lookup_eq_some_iff.1 found
  rcases typed (name, some type) (by simp [split]) with absent | same | same
  · cases absent
  · exact Or.inl (Option.some.inj same)
  · exact Or.inr (Option.some.inj same)

variable {known : String → Option TypeName} (settled : Settled known)
include settled

theorem operandType {token : Token} {type : TypeName}
    (typed : operandType known token = some type) :
    type = .int ∨ type = .float := by
  unfold Workbench.operandType at typed
  split at typed
  · exact Or.inl (Option.some.inj typed).symm
  · exact Or.inr (Option.some.inj typed).symm
  · exact settled _ _ typed
  · cases typed

theorem leadingType {tokens : List Token} {type : TypeName}
    (typed : leadingType known tokens = some type) :
    type = .int ∨ type = .float := by
  obtain ⟨token, -, typed⟩ := Option.bind_eq_some_iff.1 typed
  exact settled.operandType typed

theorem valueType {tokens : List Token} {type : TypeName}
    (typed : valueType known tokens = some type) :
    type = .int ∨ type = .float := by
  unfold Workbench.valueType at typed
  split at typed
  · exact Or.inr (Option.some.inj typed).symm
  · exact settled.leadingType typed

theorem settle_leadingType (tokens : List Token) :
    (Workbench.leadingType known tokens).map TypeName.settle =
      Workbench.leadingType known tokens := by
  cases typed : Workbench.leadingType known tokens with
  | none => rfl
  | some type => rcases settled.leadingType typed with rfl | rfl <;> rfl

theorem isFloat_operandType (token : Token) :
    Syntax.isFloat (Workbench.operandType known token) =
      (Workbench.operandType known token == some .float) := by
  cases typed : Workbench.operandType known token with
  | none => rfl
  | some type => rcases settled.operandType typed with rfl | rfl <;> rfl

end Settled

namespace Syntax

/-! ## The types that the readers give -/

theorem isFloat_widenTail (first tail : Option TypeName) :
    isFloat (widenTail first tail) = (isFloat first || isFloat tail) := by
  unfold widenTail
  split
  · next real =>
    simp only [Bool.or_eq_true, beq_iff_eq] at real
    rcases real with ((rfl | rfl) | left) | right
    · rfl
    · rw [Bool.or_comm]; rfl
    · simp [left]; rfl
    · simp [right]; rfl
  · next neither =>
    simp only [Bool.or_eq_true, not_or] at neither
    simp [neither.1.2, neither.2]

/-- After an operator a `float` is called by the word for its literals. -/
theorem widenTail_of_isFloat {first tail : Option TypeName}
    (float : isFloat (widenTail first tail) = true) :
    widenTail first tail = some .real := by
  rw [isFloat_widenTail, Bool.or_eq_true] at float
  unfold widenTail
  rcases float with left | right
  · simp [left]
  · simp [right]

theorem isFloat_widen {first tail : Option TypeName}
    (word : isFloat tail = true → tail = some .real) :
    isFloat (widen first tail) = (isFloat first || isFloat tail) := by
  unfold widen
  split
  · next real =>
    simp only [Bool.or_eq_true, beq_iff_eq] at real
    rcases real with rfl | rfl
    · rfl
    · rw [Bool.or_comm]; rfl
  · next neither =>
    simp only [Bool.or_eq_true, beq_iff_eq, not_or] at neither
    have plain : isFloat tail = false := by
      rw [← Bool.not_eq_true]
      exact fun float => neither.2 (word float)
    rw [plain, Bool.or_false]

theorem widen_of_not_isFloat {first tail : Option TypeName}
    (plain : isFloat (widen first tail) = false) :
    widen first tail = first := by
  unfold widen at plain ⊢
  split at plain
  · exact absurd plain (by decide)
  · next neither => rw [if_neg neither]

section
variable {state : State} {token : Token} {rest : List Token}

theorem type_factor_alone (alone : ∀ token ∈ state.rest.head?, token.kind ≠ .openParen) :
    (factor state).type = leadingType (fun name => state.analyser.typeOf name) state.rest := by
  rw [factor]
  split
  · next remaining => rw [remaining]; rfl
  · next token rest remaining =>
    have noGroup : token.kind ≠ .openParen := alone token (by simp [remaining])
    rw [remaining, leadingType_alone noGroup, operandType]
    split <;> simp_all [Typed.still]

theorem type_factor_group (first : state.rest = token :: rest) (opening : token.kind = .openParen) :
    (factor state).type = (expression state.advance).type := by
  rw [factor]
  split
  · next remaining => simp [first] at remaining
  · next other _ remaining =>
    obtain ⟨rfl, -⟩ := List.cons.inj (first.symm.trans remaining)
    simp only [opening]

theorem type_termTail_still
    (still : ∀ token ∈ state.rest.head?, token.kind.isFactorOperator = false) :
    (termTail state).type = none := by
  rw [termTail]
  split
  · rfl
  · next token _ remaining =>
    have noOperator := still token (by simp [remaining])
    simp [noOperator, Typed.still]

theorem type_termTail_step (first : state.rest = token :: rest)
    (operator : token.kind.isFactorOperator = true) :
    (termTail state).type =
      widenTail (factor state.advance).type (termTail (factor state.advance).next).type := by
  rw [termTail]
  split
  · next remaining => simp [first] at remaining
  · next other _ remaining =>
    obtain ⟨rfl, -⟩ := List.cons.inj (first.symm.trans remaining)
    simp only [operator, if_true]

theorem type_term (state : State) :
    (term state).type = widen (factor state).type (termTail (factor state).next).type := by
  rw [term]

theorem type_expressionTail_still
    (still : ∀ token ∈ state.rest.head?, token.kind.isOperator = false) :
    (expressionTail state).type = none := by
  rw [expressionTail]
  split
  · rfl
  · next token _ remaining =>
    have noOperator := still token (by simp [remaining])
    simp [noOperator, Typed.still]

theorem type_expressionTail_step (first : state.rest = token :: rest)
    (operator : token.kind.isOperator = true) :
    (expressionTail state).type =
      widenTail (term state.advance).type (expressionTail (term state.advance).next).type := by
  rw [expressionTail]
  split
  · next remaining => simp [first] at remaining
  · next other _ remaining =>
    obtain ⟨rfl, -⟩ := List.cons.inj (first.symm.trans remaining)
    simp only [operator, if_true]

theorem type_expression (state : State) :
    (expression state).type = widen (term state).type (expressionTail (term state).next).type := by
  rw [expression]

end

/-! ## What was read -/

/-- What was taken from the input stays inside a statement and declares nothing, and its type is
`float` if that of one of its operands is. -/
structure Judges (start next : State) (type : Option TypeName) (taken : List Token) : Prop where
  rest : start.rest = taken ++ next.rest
  symbols : next.analyser.symbols = start.analyser.symbols
  inner : ∀ token ∈ taken, token.kind.isInner = true
  float :
    isFloat type = taken.any fun token =>
      isFloat (operandType (fun name => start.analyser.typeOf name) token)

namespace Judges

variable {start middle next : State} {type first second : Option TypeName}
    {taken others : List Token}

theorem still (state : State) : Judges state state none [] :=
  ⟨rfl, rfl, by simp, rfl⟩

theorem sequence (left : Judges start middle first taken) (right : Judges middle next second others)
    (joined : isFloat type = (isFloat first || isFloat second)) :
    Judges start next type (taken ++ others) where
  rest := by rw [left.rest, right.rest, List.append_assoc]
  symbols := right.symbols.trans left.symbols
  inner := List.forall_mem_append.2 ⟨left.inner, right.inner⟩
  float := by
    have float := right.float
    simp only [Analyser.typeOf, left.symbols] at float
    rw [joined, left.float, float, List.any_append]
    rfl

theorem alike (judged : Judges start middle type taken) (alike : Alike middle next) :
    Judges start next type taken :=
  ⟨by rw [alike.rest, judged.rest], by rw [alike.analyser, judged.symbols],
    judged.inner, judged.float⟩

theorem sign {token : Token} {rest : List Token} (first : start.rest = token :: rest)
    (inner : token.kind.isInner = true)
    (sign : startsFactor token.kind = false ∨ token.kind = .openParen) :
    Judges start start.advance none [token] := by
  refine ⟨by simp [first], by simp, by simpa using inner, ?_⟩
  have none : operandType (fun name => start.analyser.typeOf name) token = none := by
    rcases sign with sign | kind
    · cases kind : token.kind <;> simp_all [startsFactor, operandType]
    · simp [operandType, kind]
  simp [none]

theorem thenExpect (judged : Judges start middle type taken) {wanted : Kind}
    (inner : wanted.isInner = true)
    (sign : startsFactor wanted = false) :
    ∃ others, Judges start (middle.expect wanted) type others := by
  cases met : middle.meets wanted with
  | none =>
    refine ⟨taken, ⟨?_, by simp [judged.symbols], judged.inner, judged.float⟩⟩
    rw [State.rest_expect, met]
    exact judged.rest
  | some token =>
    obtain ⟨rfl, rest, first⟩ := State.meets_eq_some.1 met
    have passed : Judges middle (middle.expect token.kind) none [token] := by
      obtain ⟨advanced, symbols, inner, float⟩ := Judges.sign first inner (Or.inl sign)
      refine ⟨?_, by simp, inner, float⟩
      rw [(State.expect_found first rfl).1, first]
      rfl
    exact ⟨_, judged.sequence passed (by simp [isFloat])⟩

end Judges

/-- The first operand decides where no operand is a `float`. -/
def Leads (state : State) (type : Option TypeName) : Prop :=
  isFloat type = false → type = leadingType (fun name => state.analyser.typeOf name) state.rest

theorem factor_judges_alone (state : State)
    (alone : ∀ token ∈ state.rest.head?, token.kind ≠ .openParen) :
    ∃ taken, Judges state (factor state).next (factor state).type taken := by
  have type := type_factor_alone alone
  cases remaining : state.rest with
  | nil =>
    rw [next_factor_missing (by simp [remaining]), type, remaining]
    exact ⟨[], .still state⟩
  | cons token rest =>
    have noGroup : token.kind ≠ .openParen := alone token (by simp [remaining])
    rw [remaining, leadingType_alone noGroup] at type
    by_cases name : token.kind = .identifier
    · obtain ⟨text, next⟩ := next_factor_name remaining name
      rw [next, type]
      exact ⟨[token], by simp [remaining], by simp,
        by simp [name, Kind.isInner, Kind.isTypeWord], by simp⟩
    · by_cases number : token.kind = .integer ∨ token.kind = .real
      · rw [next_factor_number remaining number, type]
        refine ⟨[token], by simp [remaining], by simp, ?_, by simp⟩
        rcases number with kind | kind <;> simp [kind, Kind.isInner, Kind.isTypeWord]
      · have missing : startsFactor token.kind = false := by
          cases kind : token.kind <;> simp_all [startsFactor]
        have untyped : operandType (fun name => state.analyser.typeOf name) token = none := by
          cases kind : token.kind <;> simp_all [operandType]
        rw [next_factor_missing (by simpa [remaining] using missing), type, untyped]
        exact ⟨[], .still state⟩

/-- An operator with its operand and what follows them. Such a tail calls a `float` by the word for
its literals. -/
theorem Judges.tail {start middle next : State} {first second : Option TypeName}
    {taken others : List Token}
    {token : Token} {rest : List Token} (opens : start.rest = token :: rest)
    (sign : token.kind.isInner = true ∧ startsFactor token.kind = false)
    (operand : Judges start.advance middle first taken)
    (tail : Judges middle next second others) {said : State} (alike : Alike next said) :
    (∃ taken, Judges start said (widenTail first second) taken) ∧
      (isFloat (widenTail first second) = true → widenTail first second = some .real) := by
  have opened := Judges.sign opens sign.1 (Or.inl sign.2)
  have whole := (opened.sequence operand rfl).sequence tail (isFloat_widenTail first second)
  exact ⟨⟨_, whole.alike alike⟩, widenTail_of_isFloat⟩

theorem Judges.widened {start middle next : State} {first second : Option TypeName}
    {taken others : List Token}
    (operand : Judges start middle first taken) (leads : Leads start first)
    (tail : Judges middle next second others) (word : isFloat second = true → second = some .real) :
    (∃ taken, Judges start next (widen first second) taken) ∧ Leads start (widen first second) := by
  refine ⟨⟨_, operand.sequence tail (isFloat_widen word)⟩, fun plain => ?_⟩
  rw [widen_of_not_isFloat plain]
  rw [isFloat_widen word, Bool.or_eq_false_iff] at plain
  exact leads plain.1

theorem factor_judges_and_expression_judges :
    (∀ state, (∃ taken, Judges state (factor state).next (factor state).type taken) ∧
        Leads state (factor state).type) ∧
      (∀ state, (∃ taken, Judges state (expression state).next (expression state).type taken) ∧
        Leads state (expression state).type) := by
  -- A tail that counts as a `float` has the type of a real literal, never that of a variable.
  apply expression_induction _
    (fun state => (∃ taken, Judges state (termTail state).next (termTail state).type taken) ∧
      (isFloat (termTail state).type = true → (termTail state).type = some .real))
    (fun state => (∃ taken, Judges state (term state).next (term state).type taken) ∧
      Leads state (term state).type)
    (fun state =>
      (∃ taken, Judges state (expressionTail state).next (expressionTail state).type taken) ∧
      (isFloat (expressionTail state).type = true → (expressionTail state).type = some .real))
  case factor_alone =>
    intro state alone
    exact ⟨factor_judges_alone state alone, fun _ => type_factor_alone alone⟩
  case factor_group =>
    rintro state token rest first opening ⟨⟨_, inner⟩, leads⟩
    rw [next_factor_group first opening, type_factor_group first opening]
    have opened := Judges.sign first (by rw [opening]; rfl) (Or.inr opening)
    refine ⟨(opened.sequence inner rfl).thenExpect rfl rfl, fun plain => ?_⟩
    have decided := leads plain
    rw [State.analyser_advance, State.rest_advance, first, List.tail_cons] at decided
    rw [decided, first, leadingType_group opening]
  case termTail_still =>
    intro state still
    rw [next_termTail_still still, type_termTail_still still]
    exact ⟨⟨[], .still state⟩, fun float => absurd float (by decide)⟩
  case termTail_step =>
    rintro state token rest first operator ⟨⟨_, operand⟩, -⟩ ⟨⟨_, tail⟩, -⟩
    obtain ⟨left, right, next⟩ := next_termTail_step first operator
    rw [next, type_termTail_step first operator]
    refine Judges.tail first ?_ operand tail (.noteWiden left right _)
    cases kind : token.kind <;>
      simp_all [Kind.isFactorOperator, Kind.isInner, Kind.isTypeWord, startsFactor]
  case term_read =>
    rintro state ⟨⟨_, operand⟩, leads⟩ ⟨⟨_, tail⟩, word⟩
    rw [next_term, type_term]
    exact operand.widened leads tail word
  case expressionTail_still =>
    intro state still
    rw [next_expressionTail_still still, type_expressionTail_still still]
    exact ⟨⟨[], .still state⟩, fun float => absurd float (by decide)⟩
  case expressionTail_step =>
    rintro state token rest first operator ⟨⟨_, operand⟩, -⟩ ⟨⟨_, tail⟩, -⟩
    obtain ⟨left, right, next⟩ := next_expressionTail_step first operator
    rw [next, type_expressionTail_step first operator]
    refine Judges.tail first ?_ operand tail (.noteWiden left right _)
    cases kind : token.kind <;>
      simp_all [Kind.isOperator, Kind.isInner, Kind.isTypeWord, startsFactor]
  case expression_read =>
    rintro state ⟨⟨_, operand⟩, leads⟩ ⟨⟨_, tail⟩, word⟩
    rw [next_expression, type_expression]
    exact operand.widened leads tail word

theorem expression_type {state : State} (settled : Settled fun name => state.analyser.typeOf name) :
    ∃ taken, Judges state (expression state).next (expression state).type taken ∧
      (expression state).type.map TypeName.settle =
        if taken.any fun token =>
          operandType (fun name => state.analyser.typeOf name) token == some .float then
          some .float
        else leadingType (fun name => state.analyser.typeOf name) state.rest := by
  obtain ⟨⟨taken, judged⟩, leads⟩ := factor_judges_and_expression_judges.2 state
  refine ⟨taken, judged, ?_⟩
  have float := judged.float
  simp only [settled.isFloat_operandType] at float
  rw [← float]
  split
  · next some_float => simpa [isFloat] using some_float
  · next plain =>
    rw [leads (by simpa using plain)]
    exact settled.settle_leadingType _

/-! ## Places of operands -/

theorem mem_taken_iff {tokens : List Token} {start next : State}
    (within : start.rest = tokens.drop start.position)
    {taken : List Token} (split : start.rest = taken ++ next.rest)
    (counted : next.position + next.rest.length = start.position + start.rest.length)
    {token : Token} :
    token ∈ taken ↔ ∃ index, start.position ≤ index ∧ index < next.position ∧
      tokens[index]? = some token := by
  have passed : next.position = start.position + taken.length := by
    rw [split, List.length_append] at counted
    omega
  have here {offset : Nat} (inside : offset < taken.length) : tokens[start.position + offset]? =
      taken[offset]? := by
    rw [← List.getElem?_drop, ← within, split, List.getElem?_append_left inside]
  constructor
  · intro member
    obtain ⟨offset, inside, rfl⟩ := List.mem_iff_getElem.1 member
    exact ⟨start.position +
      offset, by omega, by omega, by rw [here inside, List.getElem?_eq_getElem inside]⟩
  · rintro ⟨index, after, before, found⟩
    obtain ⟨offset, rfl⟩ := Nat.exists_eq_add_of_le after
    rw [here (by omega)] at found
    exact List.mem_of_getElem? found

/-- The type of an expression is told by the tokens it is read from: it is `float` exactly if one of
them is a real literal or the name of a `float`, at whatever depth. Otherwise the first token behind
the parentheses that open there decides, and anything but an integer or a name leaves the expression
without a type. -/
theorem expression_type_by_places (tokens : List Token) (state : State)
    (within : state.rest = tokens.drop state.position)
    (typed : ∀ entry ∈ state.analyser.symbols.entries, entry.2 = none ∨ entry.2 = some .int ∨
      entry.2 = some .float) :
    let read := expression state
    (read.type.map TypeName.settle = some .float ↔
        ∃ index token, state.position ≤ index ∧ index < read.next.position ∧
          tokens[index]? = some token ∧
          (token.kind = .real ∨ token.kind = .identifier ∧
            state.analyser.typeOf token.lexeme = some .float)) ∧
      (read.type.map TypeName.settle ≠ some .float →
        read.type =
          ((tokens.drop state.position).find? fun token =>
            token.kind != .openParen).bind fun token =>
          if token.kind = .integer then some .int
          else if token.kind = .identifier then state.analyser.typeOf token.lexeme
          else none) := by
  intro read
  have settled := Settled.of_entries typed
  obtain ⟨⟨taken, judged⟩, leads⟩ := factor_judges_and_expression_judges.2 state
  have places {token : Token} := @mem_taken_iff tokens state read.next within taken judged.rest
    (expression_counts state).counted token
  have float : isFloat read.type = true ↔ read.type.map TypeName.settle = some .float := by
    simp [isFloat]
  refine ⟨?_, fun other => ?_⟩
  · rw [← float, judged.float, List.any_eq_true]
    simp only [settled.isFloat_operandType, beq_iff_eq, operandType_eq_float]
    constructor
    · rintro ⟨token, member, operand⟩
      obtain ⟨index, after, before, found⟩ := places.1 member
      exact ⟨index, token, after, before, found, operand⟩
    · rintro ⟨index, token, after, before, found, operand⟩
      exact ⟨token, places.2 ⟨index, after, before, found⟩, operand⟩
  · -- Without a `float` the first operand decides, and it stands behind the parentheses.
    have decided : read.type = leadingType (fun name => state.analyser.typeOf name) state.rest :=
      leads (Bool.eq_false_iff.2 (mt float.1 other))
    rw [decided] at other ⊢
    rw [settled.settle_leadingType] at other
    rw [← within]
    exact leadingType_of_ne_float other

/-- A `float` in the inner parentheses decides, although the expression starts with an `int`, and a
sign in front of a name leaves no type. -/
theorem expression_type_by_places_nested :
    let analyser : Analyser := { symbols := ⟨[("a", some .int), ("b", none), ("c", some .float)]⟩ }
    let product := (lex "b = ((a - 2) * (1 + c)) ; c").tokens
    let signed := (lex "b = (-a); c").tokens
    (∀ entry ∈ analyser.symbols.entries, entry.2 = none ∨ entry.2 = some .int ∨
      entry.2 = some .float) ∧
      (expression { rest := product.drop 2, position := 2, analyser }).type.map TypeName.settle =
        some .float ∧
      (expression { rest := signed.drop 2, position := 2, analyser }).type = none := by
  intro analyser product signed
  obtain ⟨typed, ended, named, unlike⟩ :
      (∀ entry ∈ analyser.symbols.entries, entry.2 = none ∨ entry.2 = some .int ∨
        entry.2 = some .float) ∧
        12 < (expression { rest := product.drop 2, position := 2, analyser }).next.position ∧
        product[12]? = some ⟨"c", .identifier, some 0⟩ ∧
        (expression { rest := signed.drop 2, position := 2, analyser }).type.map TypeName.settle ≠
          some .float := by
    decide +kernel
  obtain ⟨float, -⟩ :=
    expression_type_by_places product { rest := product.drop 2, position := 2, analyser } rfl typed
  obtain ⟨-, decided⟩ :=
    expression_type_by_places signed { rest := signed.drop 2, position := 2, analyser } rfl typed
  refine ⟨typed, float.2 ⟨12, _, by decide, ended, named, Or.inr ⟨rfl, rfl⟩⟩, ?_⟩
  rw [decided unlike]
  decide +kernel

end Syntax

end Workbench
