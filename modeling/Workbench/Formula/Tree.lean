import Workbench.Text.Classes

/-! Formulas as trees, apart from how they are written and what they come to. -/

set_option autoImplicit false

namespace Workbench

namespace Formula

open Text (Codes)

inductive Literal where
  | int (n : Nat)
  | float (x : Float)
  | imaginary (x : Float)
  | text (codes : Codes)
  | bytes (codes : Codes)
  | truth (b : Bool)
  | nothing
  | ellipsis

inductive Operator where
  | add
  | sub
  | mul
  | div
  | floorDiv
  | mod
  | pow
  | matrixMul
  | bitOr
  | bitXor
  | bitAnd
  | shiftLeft
  | shiftRight
  deriving DecidableEq, Repr

def Operator.sign : Operator → String
  | add => "+"
  | sub => "-"
  | mul => "*"
  | div => "/"
  | floorDiv => "//"
  | mod => "%"
  | pow => "** or pow()"
  | matrixMul => "@"
  | bitOr => "|"
  | bitXor => "^"
  | bitAnd => "&"
  | shiftLeft => "<<"
  | shiftRight => ">>"

inductive Sign where
  | plus
  | minus
  | invert
  deriving DecidableEq, Repr

def Sign.spelling : Sign → String
  | plus => "+"
  | minus => "-"
  | invert => "~"

inductive Comparison where
  | lt
  | le
  | gt
  | ge
  | eq
  | ne
  | isIn
  | notIn
  | being
  | notBeing
  deriving DecidableEq, Repr

def Comparison.sign : Comparison → String
  | lt => "<"
  | le => "<="
  | gt => ">"
  | ge => ">="
  | eq => "=="
  | ne => "!="
  | isIn => "in"
  | notIn => "not in"
  | being => "is"
  | notBeing => "is not"

inductive Conversion where
  | shown
  | written
  | ascii
  deriving DecidableEq, Repr

/-- How an argument may reach a parameter: by position, by name, or either way. -/
inductive Passing where
  | positional
  | either
  | named
  deriving DecidableEq, Repr

inductive Collection where
  | list
  | set
  | mapping
  | generator
  deriving DecidableEq, Repr

end Formula

mutual

inductive Formula where
  | literal (value : Formula.Literal)
  | name (word : String)
  | tuple (items : Formula.Items)
  | list (items : Formula.Items)
  | set (items : Formula.Items)
  | mapping (entries : Formula.Entries)
  | template (parts : Formula.Parts)
  | signed (sign : Formula.Sign) (operand : Formula)
  | binary (operator : Formula.Operator) (left right : Formula)
  | chain (first : Formula) (links : Formula.Links)
  | not (operand : Formula)
  | all (operands : Formula.Items)
  | any (operands : Formula.Items)
  | choice (condition yes no : Formula)
  | call (target : Formula) (inputs : Formula.Inputs)
  | field (owner : Formula) (name : String)
  | subscript (owner index : Formula)
  | slice (start stop step : Formula)
  /-- Gives a name to a value on the way. -/
  | bind (name : String) (value : Formula)
  | function (parameters : Formula.Parameters) (body : Formula)
  | comprehension (collection : Formula.Collection) (element : Formula) (clauses : Formula.Clauses)

inductive Formula.Items where
  | none
  | item (first : Formula) (rest : Formula.Items)
  /-- A sequence all of whose items are meant. -/
  | spread (first : Formula) (rest : Formula.Items)

inductive Formula.Entries where
  | none
  | entry (key value : Formula) (rest : Formula.Entries)
  /-- A mapping all of whose entries are meant. -/
  | spread (first : Formula) (rest : Formula.Entries)

inductive Formula.Parts where
  | none
  | text (codes : Text.Codes) (rest : Formula.Parts)
  | place (value : Formula) (conversion : Option Formula.Conversion) (format rest : Formula.Parts)

inductive Formula.Links where
  | last (comparison : Formula.Comparison) (right : Formula)
  | more (comparison : Formula.Comparison) (right : Formula) (rest : Formula.Links)

inductive Formula.Inputs where
  | none
  | item (first : Formula) (rest : Formula.Inputs)
  | spread (first : Formula) (rest : Formula.Inputs)
  | named (name : String) (first : Formula) (rest : Formula.Inputs)
  | spreadNamed (first : Formula) (rest : Formula.Inputs)

inductive Formula.Parameters where
  | none
  | required (passing : Formula.Passing) (name : String) (rest : Formula.Parameters)
  | optional (passing : Formula.Passing) (name : String) (fallback : Formula)
      (rest : Formula.Parameters)
  /-- Takes all further arguments by position. -/
  | others (name : String) (rest : Formula.Parameters)
  /-- Takes all further arguments by name. -/
  | othersNamed (name : String) (rest : Formula.Parameters)

/-- The clauses of a comprehension: where items come from, what they are called, and which count. -/
inductive Formula.Clauses where
  | none
  | clause (target : Formula.Target) (source : Formula) (conditions : Formula.Items)
      (rest : Formula.Clauses)

inductive Formula.Target where
  | name (word : String)
  | items (targets : Formula.Targets)
  | field (owner : Formula) (name : String)
  | subscript (owner index : Formula)

/-- Targets for the items of a sequence; one of them may take several. -/
inductive Formula.Targets where
  | none
  | item (first : Formula.Target) (rest : Formula.Targets)
  | several (first : Formula.Target) (rest : Formula.Targets)

end

end Workbench
