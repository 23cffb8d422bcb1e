import Workbench.Text.Quoted

/-! Tokens of the language: a lexeme, the kind it belongs to, and the kind's number. -/

set_option autoImplicit false

namespace Workbench

def Kind.labels : List String :=
  ["palabra reservada int", "palabra reservada float", "palabra reservada print", "palabra reservada if",
   "palabra reservada else", "tipo", "identificador", "real", "entero", "cadena", "operación suma",
   "operación resta", "operación multiplicación", "operación división", "operación relación", "operación or",
   "operación and", "operación not", "operación igualdad", "punto y coma", "coma", "paréntesis abierto",
   "paréntesis cerrado", "llave abierta", "llave cerrada", "asignación", "operación division"]

/-- The kinds of token. The lexer never makes `quotient` or `other`, but the parser is given token
lists from elsewhere too, and terms accept `quotient` as an operator. -/
inductive Kind where
  | intWord
  | floatWord
  | printWord
  | ifWord
  | elseWord
  | typeName
  | identifier
  | real
  | integer
  | quotation
  | plus
  | minus
  | times
  | divide
  | relation
  | disjunction
  | conjunction
  | negation
  | equality
  | semicolon
  | comma
  | openParen
  | closeParen
  | openBrace
  | closeBrace
  | assign
  | quotient
  | other (label : Option String) (unlisted : ∀ text ∈ label, text ∉ Kind.labels)
  deriving DecidableEq, Repr

namespace Kind

def named : List Kind :=
  [intWord, floatWord, printWord, ifWord, elseWord, typeName, identifier, real, integer, quotation,
   plus, minus, times, divide, relation, disjunction, conjunction, negation, equality, semicolon,
   comma, openParen, closeParen, openBrace, closeBrace, assign, quotient]

def label : Kind → Option String
  | other label _ => label
  | kind => (named.zip labels).lookup kind

theorem map_label_named : named.map label = labels.map some := by decide

theorem find?_named_eq_none {label : Option String} :
    (named.find? fun kind => kind.label == label) = none ↔ ∀ text ∈ label, text ∉ labels := by
  have listed : (∀ kind ∈ named, kind.label ≠ label) ↔ label ∉ labels.map some := by
    rw [← map_label_named, List.mem_map]
    simp only [not_exists, not_and]
  simp only [List.find?_eq_none, beq_iff_eq, listed]
  cases label <;> simp

def ofLabel (label : Option String) : Kind :=
  match found : named.find? fun kind => kind.label == label with
  | some kind => kind
  | none => other label (find?_named_eq_none.1 found)

def isTypeWord : Kind → Bool
  | intWord | floatWord => true
  | _ => false

def isOperator : Kind → Bool
  | plus | minus | times | divide => true
  | _ => false

def isFactorOperator : Kind → Bool
  | times | quotient => true
  | _ => false

def isComparison : Kind → Bool
  | equality | relation => true
  | _ => false

theorem label_ofLabel (label : Option String) : (ofLabel label).label = label := by
  unfold ofLabel
  split
  case h_1 kind found => simpa using List.find?_some found
  case h_2 => rfl

theorem ofLabel_label (kind : Kind) : ofLabel kind.label = kind := by
  cases kind with
  | other label unlisted =>
    unfold ofLabel
    split
    case h_1 found => cases (find?_named_eq_none.2 unlisted).symm.trans found
    case h_2 => rfl
  | _ => rfl

end Kind

structure Token where
  lexeme : String
  kind : Kind
  number : Option Int
  deriving DecidableEq, Repr

def orNone (text : Option String) : String := text.getD "None"

def Token.describe (token : Token) : String :=
  "(" ++ Text.quoted token.lexeme ++ ", " ++ orNone (token.kind.label.map Text.quoted) ++ ", " ++
    orNone (token.number.map toString) ++ ")"

end Workbench
