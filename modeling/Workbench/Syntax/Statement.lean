import Workbench.Syntax.Expression

/-! Reading statements and programs. A statement with faults is read on to where it would have
ended; only a missing token or a missing target halts the parser, and the state stays as it was then. -/

set_option autoImplicit false

namespace Workbench.Syntax

def initializer (state : State) : Typed state :=
  match state.meets .assign with
  | none => .still state
  | some _ =>
    match expression state.advance with
    | ⟨type, next, bound⟩ =>
      ⟨type, next.say ("Tipo expresion DeclaracionVar -> " ++ TypeName.describe type),
        Nat.le_trans bound state.length_rest_advance⟩

/-- The name and the initial value of a declaration. The type recorded is that of the value. -/
def declarator (state : State) : Outcome state :=
  match state.meets .identifier with
  | none => .still state
  | some token =>
    match initializer state.advance with
    | ⟨type, next, bound⟩ =>
      let next := next.say ("DeclaracionVar semantic_error -> " ++ next.describeFaults)
      ⟨.ok (), (next.noteSettle type).declare token.lexeme (type.map TypeName.settle),
        Nat.le_trans bound state.length_rest_advance⟩

def variableDeclaration (state : State) : Progress state :=
  match state.advance.peek with
  | none => ⟨.error .missingToken, state.advance, by simp⟩
  | some _ =>
    match declarator state.advance with
    | ⟨_, next, bound⟩ =>
      let closed := next.expect .semicolon
      let reported := if (next.meets .semicolon).isSome then closed else closed.fail .missingSemicolon
      ⟨.ok (), reported, by
        have h : reported.rest = closed.rest := by
          simp only [reported]; split <;> rfl
        have := next.length_rest_expect .semicolon
        simp only [h, closed]
        simp at bound
        omega⟩

/-- The right side of an assignment. Without a target there is nothing to record it for. -/
def assigned (target : Option String) (state : State) : Outcome state :=
  match state.peek.filter (·.kind != .semicolon) with
  | none => ⟨.ok (), state.fail .missingExpression, Nat.le_refl _⟩
  | some _ =>
    match expression state, target with
    | ⟨_, next, bound⟩, none => ⟨.error .missingTarget, next, bound⟩
    | ⟨type, next, bound⟩, some name =>
      let settled := type.map TypeName.settle
      let recorded := (next.noteSettle type).record (.assignment name settled)
      ⟨.ok (), (recorded.noteSettle type).assign name settled, bound⟩

def assignmentTail (target : Option String) (state : State) : Outcome state :=
  match assigned target (state.expect .assign) with
  | ⟨result, next, bound⟩ =>
    have bound := Nat.le_trans bound (state.length_rest_expect .assign)
    match result with
    | .error halt => ⟨.error halt, next, bound⟩
    | .ok () => ⟨.ok (), next.expect .semicolon, Nat.le_trans (next.length_rest_expect _) bound⟩

def assignment (state : State) : Progress state :=
  match h : state.rest with
  | [] => ⟨.error .missingToken, state, by simp [h]⟩
  | token :: _ =>
    if token.kind == .identifier then
      match assignmentTail (some token.lexeme)
        ((state.say state.describeSymbols).use token.lexeme).advance with
      | ⟨result, next, bound⟩ => ⟨result, next, by simp at bound; omega⟩
    else
      match assignmentTail none (state.fail (.invalidTarget token.kind)).advance with
      | ⟨result, next, bound⟩ => ⟨result, next, by simp at bound; omega⟩

def passComparison (state : State) : State :=
  if (state.peek.filter (·.kind.isComparison)).isSome then state.advance
  else state.fail .missingComparison

theorem length_rest_passComparison (state : State) :
    (passComparison state).rest.length ≤ state.rest.length := by
  unfold passComparison
  split
  · exact state.length_rest_advance
  · exact Nat.le_refl _

def comparison (state : State) : Typed state :=
  match expression state with
  | ⟨_, middle, bound⟩ =>
    match expression (passComparison middle) with
    | ⟨_, next, bound'⟩ =>
      ⟨none, next, Nat.le_trans bound' (Nat.le_trans (length_rest_passComparison middle) bound)⟩

theorem length_rest_expect_of_meets (wanted : Kind) (state : State)
    (h : (state.meets wanted).isSome) :
    (state.expect wanted).rest.length ≤ state.rest.length - 1 := by
  simp [State.rest_expect, h]

def printTail (state : State) : Outcome state :=
  match expression (state.expect .openParen) with
  | ⟨_, next, bound⟩ =>
    ⟨.ok (), (next.expect .closeParen).expect .semicolon, by
      have h₁ := state.length_rest_expect .openParen
      have h₂ := next.length_rest_expect .closeParen
      have h₃ := (next.expect .closeParen).length_rest_expect .semicolon
      omega⟩

def printStatement (state : State) : Outcome state :=
  match printTail (state.expect .printWord) with
  | ⟨result, next, bound⟩ => ⟨result, next, Nat.le_trans bound (state.length_rest_expect _)⟩

def conditionalHead (state : State) : State :=
  let opened := (state.say "paso if").expect .openParen
  let entered := (opened.say "paso pa").say "Entro prueba expresion relacional"
  let compared := (comparison entered).next.say "paso prueba expresion relacional"
  (((compared.expect .closeParen).say "paso pc").expect .openBrace).say "paso la"

theorem length_rest_conditionalHead (state : State) :
    (conditionalHead state).rest.length ≤ state.rest.length := by
  unfold conditionalHead
  simp only [State.rest_say]
  refine Nat.le_trans (State.length_rest_expect _ _) ?_
  refine Nat.le_trans (State.length_rest_expect _ _) ?_
  refine Nat.le_trans (comparison _).bound ?_
  exact State.length_rest_expect _ _

/-- Of three readers that call each other, each has its own place in between two lengths. -/
theorem three_mul_add_lt {m n k : Nat} (shorter : m < n) (small : k < 3) : 3 * m + k < 3 * n := by
  omega

mutual

def block (state : State) : Outcome state :=
  match h : state.rest with
  | [] => .still state
  | token :: _ =>
    if token.kind == .closeBrace then .still state
    else
      match statement state with
      | ⟨.error halt, next, bound⟩ => ⟨.error halt, next, by omega⟩
      | ⟨.ok (), next, bound⟩ =>
        match block next with
        | ⟨result, final, bound'⟩ => ⟨result, final, by omega⟩
termination_by 3 * state.rest.length + 1
decreasing_by all_goals (simp [h] at *; try omega)

def conditionalBody (state : State) : Outcome state :=
  match block state with
  | ⟨.error halt, next, bound⟩ => ⟨.error halt, next, bound⟩
  | ⟨.ok (), next, bound⟩ =>
    let closed := next.expect .closeBrace
    have hclosed : closed.rest.length ≤ state.rest.length :=
      Nat.le_trans (next.length_rest_expect _) bound
    match h : closed.meets .elseWord with
    | none => ⟨.ok (), closed, hclosed⟩
    | some _ =>
      have hopened : (closed.advance.expect .openBrace).rest.length < state.rest.length := by
        refine Nat.lt_of_le_of_lt (State.length_rest_expect _ _) ?_
        have : closed.rest ≠ [] := by
          intro empty
          simp [State.meets, State.peek, empty] at h
        have : 0 < closed.rest.length := List.length_pos_iff.mpr this
        simp only [State.rest_advance, List.length_tail]
        omega
      match block (closed.advance.expect .openBrace) with
      | ⟨.error halt, final, bound'⟩ => ⟨.error halt, final, by omega⟩
      | ⟨.ok (), final, bound'⟩ =>
        ⟨.ok (), final.expect .closeBrace, Nat.le_trans (final.length_rest_expect _) (by omega)⟩
termination_by 3 * state.rest.length + 2
decreasing_by
  · omega
  · exact Nat.lt_of_lt_of_le (three_mul_add_lt hopened (by decide)) (Nat.le_add_right _ _)

/-- One statement, chosen by its first token. A token that starts none is passed over. -/
def statement (state : State) : Progress state :=
  let seen := state.say ("Parse: token en declaracion -> " ++ orNone (state.peek.map Token.describe))
  match h : state.rest with
  | [] => ⟨.error .missingToken, seen, by simp [seen, h]⟩
  | token :: _ =>
    match hkind : token.kind with
    | .intWord | .floatWord =>
      match variableDeclaration (seen.say "entro a palabra reservada int o float") with
      | ⟨.error halt, next, bound⟩ => ⟨.error halt, next, bound⟩
      | ⟨.ok (), next, bound⟩ =>
        ⟨.ok (), (next.say "Termino de entrar a palabra reservada int o float").say "termino", bound⟩
    | .identifier =>
      match assignment (seen.say "entro a identificador") with
      | ⟨.error halt, next, bound⟩ => ⟨.error halt, next, bound⟩
      | ⟨.ok (), next, bound⟩ => ⟨.ok (), next.say "termino", bound⟩
    | .ifWord =>
      let entered := (seen.say "entro a palabra reservada").say "Procesando if"
      have hpassed : (entered.expect .ifWord).rest.length ≤ state.rest.length - 1 :=
        length_rest_expect_of_meets _ entered
          (by simp [State.meets, State.peek, entered, seen, h, hkind])
      let opened := conditionalHead (entered.expect .ifWord)
      have hopened : opened.rest.length ≤ state.rest.length - 1 :=
        Nat.le_trans (length_rest_conditionalHead _) hpassed
      match conditionalBody opened with
      | ⟨.error halt, next, bound⟩ => ⟨.error halt, next, Nat.le_trans bound hopened⟩
      | ⟨.ok (), next, bound⟩ => ⟨.ok (), next.say "termino", Nat.le_trans bound hopened⟩
    | .printWord =>
      let entered := seen.say "entro a palabra reservada print"
      have hpassed : (entered.expect .printWord).rest.length ≤ state.rest.length - 1 :=
        length_rest_expect_of_meets _ entered
          (by simp [State.meets, State.peek, entered, seen, h, hkind])
      match printTail (entered.expect .printWord) with
      | ⟨result, next, bound⟩ => ⟨result, next.say "termino", Nat.le_trans bound hpassed⟩
    | _ =>
      let faulty := ((seen.say "entro a error").say "entro a cargar").fail .invalidStatement
      ⟨.ok (), faulty.advance.say "termino", by simp [faulty, seen]⟩
termination_by 3 * state.rest.length
decreasing_by
  exact three_mul_add_lt (Nat.lt_of_le_of_lt hopened (by simp [h])) (by decide)

end

def conditional (state : State) : Outcome state :=
  let opened := conditionalHead ((state.say "Procesando if").expect .ifWord)
  match conditionalBody opened with
  | ⟨result, next, bound⟩ =>
    ⟨result, next, Nat.le_trans bound
      (Nat.le_trans (length_rest_conditionalHead _) (State.length_rest_expect _ _))⟩

def program (state : State) : Outcome state :=
  match h : state.rest with
  | [] => ⟨.ok (), state.say "--------- Termino de leer todo el programa -----------", Nat.le_refl _⟩
  | _ :: _ =>
    match statement state with
    | ⟨.error halt, next, bound⟩ => ⟨.error halt, next, by omega⟩
    | ⟨.ok (), next, bound⟩ =>
      match program next with
      | ⟨result, final, bound'⟩ => ⟨result, final, by omega⟩
termination_by state.rest.length
decreasing_by simp [h] at bound; simp [h]; omega

end Workbench.Syntax
