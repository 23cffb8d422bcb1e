import Workbench.Syntax.Reading

/-! Reading expressions. An operand may be left out anywhere, so reading never fails; it ends at the
first token that cannot go on. What comes back is the word for the type of what was read. -/

set_option autoImplicit false

namespace Workbench.Syntax

/-- One operand that is `real` makes the whole so; otherwise the first decides. -/
def widen (first tail : Option TypeName) : Option TypeName :=
  if first == some .real || tail == some .real then some .real else first

def isFloat (type : Option TypeName) : Bool := type.map TypeName.settle == some .float

/-- After an operator, a `float` on either side makes the whole `real` too. -/
def widenTail (first tail : Option TypeName) : Option TypeName :=
  if first == some .real || tail == some .real || isFloat first || isFloat tail then some .real
  else first

def noteWiden (first tail : Option TypeName) (state : State) : State :=
  if first == some .real || tail == some .real then state
  else if isFloat first then state.noteSettle first
  else (state.noteSettle first).noteSettle tail

@[simp] theorem rest_noteWiden (first tail : Option TypeName) (state : State) :
    (noteWiden first tail state).rest = state.rest := by
  unfold noteWiden
  split
  · rfl
  · split <;> simp

mutual

def factor (state : State) : Typed state :=
  match h : state.rest with
  | [] => .still state
  | token :: _ =>
    match token.kind with
    | .integer => ⟨some .int, state.advance, by simp⟩
    | .real => ⟨some .float, state.advance, by simp⟩
    | .identifier =>
      let type := state.analyser.typeOf token.lexeme
      let next := (state.use token.lexeme).say
        (" Factor | var_name = " ++ token.lexeme ++ ", var_type = " ++ TypeName.describe type ++ " ")
      ⟨type, next.advance, by simp [next]⟩
    | .openParen =>
      match expression state.advance with
      | ⟨type, next, bound⟩ =>
        ⟨type, next.expect .closeParen,
          Nat.le_trans (next.length_rest_expect _) (Nat.le_trans bound (by simp))⟩
    | _ => .still state
termination_by 5 * state.rest.length
decreasing_by simp [h]; omega

def termTail (state : State) : Typed state :=
  match h : state.rest with
  | [] => .still state
  | token :: _ =>
    if token.kind.isFactorOperator then
      match factor state.advance with
      | ⟨first, middle, bound⟩ =>
        match termTail middle with
        | ⟨tail, next, bound'⟩ =>
          ⟨widenTail first tail, noteWiden first tail next, by simp at bound ⊢; omega⟩
    else .still state
termination_by 5 * state.rest.length + 1
decreasing_by all_goals (simp [h] at *; try omega)

def term (state : State) : Typed state :=
  match factor state with
  | ⟨first, middle, bound⟩ =>
    match termTail middle with
    | ⟨tail, next, bound'⟩ => ⟨widen first tail, next, Nat.le_trans bound' bound⟩
termination_by 5 * state.rest.length + 2
decreasing_by all_goals (simp at *; try omega)

def expressionTail (state : State) : Typed state :=
  match h : state.rest with
  | [] => .still state
  | token :: _ =>
    if token.kind.isOperator then
      match term state.advance with
      | ⟨first, middle, bound⟩ =>
        match expressionTail middle with
        | ⟨tail, next, bound'⟩ =>
          ⟨widenTail first tail, noteWiden first tail next, by simp at bound ⊢; omega⟩
    else .still state
termination_by 5 * state.rest.length + 3
decreasing_by all_goals (simp [h] at *; try omega)

def expression (state : State) : Typed state :=
  match term state with
  | ⟨first, middle, bound⟩ =>
    match expressionTail middle with
    | ⟨tail, next, bound'⟩ => ⟨widen first tail, next, Nat.le_trans bound' bound⟩
termination_by 5 * state.rest.length + 4
decreasing_by all_goals (simp at *; try omega)

end

end Workbench.Syntax
