import Workbench.Check

/-! The state of the parser: the tokens still to read, the faults found so far, and the analyser that
follows declarations and uses. -/

set_option autoImplicit false

namespace Workbench.Syntax

inductive SyntaxError where
  | expected (wanted found : Kind)
  | absent (wanted : Kind)
  | invalidStatement
  | missingSemicolon
  | invalidTarget (found : Kind)
  | missingExpression
  | missingComparison
  deriving DecidableEq, Repr

def SyntaxError.message : SyntaxError → String
  | expected wanted found =>
    "Error SINTACTICO: se esperaba '" ++ orNone wanted.label ++ "' pero se encontró '" ++
      orNone found.label ++ "'"
  | absent wanted => "Error SINTACTICO: se esperaba '" ++ orNone wanted.label ++ "'"
  | invalidStatement => "Error SINTACTICO: declaración inválida"
  | missingSemicolon => "Error SINTACTICO: falta ';' al final de la declaración"
  | invalidTarget found =>
    "Error SINTACTICO: el lado izquierdo de una asignación debe ser un identificador, pero se encontró '" ++
      orNone found.label ++ "'"
  | missingExpression => "Error SINTACTICO: se esperaba una expresión después de '='"
  | missingComparison => "Error SINTACTICO: se esperaba un operador de relación o igualdad'"

/-- What stops the parser altogether. -/
inductive Halt where
  /-- A statement needed a token where none is left. -/
  | missingToken
  /-- An assignment without a target had an expression to record. -/
  | missingTarget
  deriving DecidableEq, Repr

structure State where
  rest : List Token
  position : Nat := 0
  line : Nat := 1
  errors : List SyntaxError := []
  analyser : Analyser := {}
  notes : Array String := #[]

/-- Newlines that a lexeme spells with a backslash and the letter. -/
def spelledNewlines : List Char → Nat
  | '\\' :: 'n' :: rest => spelledNewlines rest + 1
  | _ :: rest => spelledNewlines rest
  | [] => 0

namespace State

def ofTokens (tokens : List Token) : State := { rest := tokens }

def peek (state : State) : Option Token := state.rest.head?

def say (text : String) (state : State) : State :=
  { state with notes := state.notes.push text }

def fail (error : SyntaxError) (state : State) : State :=
  { state with errors := state.errors ++ [error] }

def advance (state : State) : State :=
  match state.rest with
  | [] => state
  | token :: rest =>
    { state with
      rest := rest
      position := state.position + 1
      line := state.line + spelledNewlines token.lexeme.toList }

def meets (wanted : Kind) (state : State) : Option Token :=
  state.peek.filter (·.kind == wanted)

/-- At the end of the input only brackets are missed. -/
def missedAtEnd : Kind → Bool
  | .openParen | .closeParen | .openBrace | .closeBrace => true
  | .other (some "") _ => true
  | _ => false

/-- Passes a token of the wanted kind and finds fault with any other. -/
def expect (wanted : Kind) (state : State) : State :=
  let state := state.say ("Match: token actual -> " ++ orNone (state.peek.map Token.describe) ++
    " == token a comparar " ++ orNone wanted.label)
  match state.peek with
  | some token =>
    if token.kind == wanted then (state.say "yes").advance
    else ((state.say "no").say "error a cargar").fail (.expected wanted token.kind)
  | none => if missedAtEnd wanted then state.fail (.absent wanted) else state

def noteSettle (type : Option TypeName) (state : State) : State :=
  state.say (" Equivalencias | recibido = " ++ TypeName.describe type ++ ", equivalente = " ++
    TypeName.describe (type.map TypeName.settle) ++ " ")

def use (name : String) (state : State) : State :=
  { state with
    analyser := state.analyser.use name
    notes := state.notes ++ state.analyser.useNotes name }

def declare (name : String) (type : Option TypeName) (state : State) : State :=
  { state with analyser := state.analyser.declare name type }

def assign (name : String) (type : Option TypeName) (state : State) : State :=
  { state with analyser := state.analyser.assign name type }

def record (entry : Entry) (state : State) : State :=
  { state with analyser := { state.analyser with entries := state.analyser.entries ++ [entry] } }

def describeSymbols (state : State) : String :=
  "\x7b" ++ ", ".intercalate (state.analyser.symbols.entries.map fun (name, type) =>
    Text.quoted name ++ ": " ++ orNone (type.map fun type => Text.quoted type.label)) ++ "\x7d"

def describeFaults (state : State) : String :=
  Text.listed (state.analyser.errors.map fun error => Text.quoted error.message)

@[simp] theorem rest_say (text : String) (state : State) : (state.say text).rest = state.rest := rfl

@[simp] theorem rest_fail (error : SyntaxError) (state : State) :
    (state.fail error).rest = state.rest := rfl

@[simp] theorem rest_noteSettle (type : Option TypeName) (state : State) :
    (state.noteSettle type).rest = state.rest := rfl

@[simp] theorem rest_use (name : String) (state : State) : (state.use name).rest = state.rest := rfl

@[simp] theorem rest_declare (name : String) (type : Option TypeName) (state : State) :
    (state.declare name type).rest = state.rest := rfl

@[simp] theorem rest_assign (name : String) (type : Option TypeName) (state : State) :
    (state.assign name type).rest = state.rest := rfl

@[simp] theorem rest_record (entry : Entry) (state : State) :
    (state.record entry).rest = state.rest := rfl

@[simp] theorem rest_advance (state : State) : state.advance.rest = state.rest.tail := by
  unfold advance
  cases h : state.rest <;> simp [h]

theorem length_rest_advance (state : State) : state.advance.rest.length ≤ state.rest.length := by
  rw [rest_advance, List.length_tail]
  exact Nat.sub_le _ _

theorem rest_expect (wanted : Kind) (state : State) :
    (state.expect wanted).rest = if (state.meets wanted).isSome then state.rest.tail else state.rest := by
  cases h : state.rest with
  | nil => simp only [expect, peek, rest_say, h, List.head?_nil, meets]; split <;> simp [h]
  | cons token rest =>
    simp only [expect, peek, rest_say, h, List.head?_cons, meets, Option.filter_some]
    split <;> simp [h]

theorem length_rest_expect (wanted : Kind) (state : State) :
    (state.expect wanted).rest.length ≤ state.rest.length := by
  rw [rest_expect]
  split <;> simp

end State

end Workbench.Syntax
