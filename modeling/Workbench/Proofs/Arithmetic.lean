import Workbench.Formula.Parser

/-! Arithmetic as it is written: literals, names, signs and parentheses, with connectives between
operands and nothing left out.

Blanks are kept, each run after the mark it follows, so that a tree is also a text. What stands in
the place of a name is given from outside, and what a tree comes to is a fold over it that lets
products bind tighter than sums.
-/

set_option autoImplicit false

namespace Workbench.Arithmetic

structure Gap where
  chars : List Char
  blank : chars.all (fun c => c == ' ' || c == '\t') = true

/-- A name starts with a letter or the low line and goes on with word characters, in any script. -/
def isName : List Char → Bool
  | [] => false
  | c :: rest => Formula.startsWord c && rest.all Text.isWord

structure Name where
  chars : List Char
  well : isName chars = true

def isDigits (text : List Char) : Bool := !text.isEmpty && text.all Char.isDigit

/-- An integer has no leading zero, unless it is zero, and not too many digits. -/
def isInteger (digits : List Char) : Bool :=
  isDigits digits &&
    (digits.all (· == '0') || (digits.head? != some '0' && digits.length ≤ Formula.digitLimit))

inductive Literal where
  | integer (digits : List Char) (well : isInteger digits = true)
  | real (digits places : List Char) (well : (isDigits digits && isDigits places) = true)

def Literal.chars : Literal → List Char
  | integer digits _ => digits
  | real digits places _ => digits ++ '.' :: places

inductive Connective where
  | plus
  | minus
  | times
  | divide
  deriving DecidableEq, Repr

namespace Connective

def char : Connective → Char
  | plus => '+'
  | minus => '-'
  | times => '*'
  | divide => '/'

def spelling : Connective → String
  | plus => "+"
  | minus => "-"
  | times => "*"
  | divide => "/"

def operator : Connective → Formula.Operator
  | plus => .add
  | minus => .sub
  | times => .mul
  | divide => .div

def isProduct : Connective → Bool
  | times | divide => true
  | plus | minus => false

end Connective

mutual

inductive Operand where
  | number (literal : Literal) (after : Gap)
  | name (name : Name) (after : Gap)
  | group (before : Gap) (inside : Expression) (after : Gap)
  | signed (minus : Bool) (after : Gap) (operand : Operand)

inductive Expression where
  | mk (first : Operand) (rest : Chain)

/-- The connectives after an operand, each with the operand that follows it. -/
inductive Chain where
  | done
  | more (connective : Connective) (after : Gap) (operand : Operand) (rest : Chain)

end

def signChar (minus : Bool) : Char := if minus then '-' else '+'

mutual

/-- The text, with something in the place of each name. -/
def Operand.text (fill : List Char → List Char) : Operand → List Char
  | .number literal after => literal.chars ++ after.chars
  | .name name after => fill name.chars ++ after.chars
  | .group before inside after => '(' :: (before.chars ++ (inside.text fill ++ ')' :: after.chars))
  | .signed minus after operand => signChar minus :: (after.chars ++ operand.text fill)

def Expression.text (fill : List Char → List Char) : Expression → List Char
  | .mk first rest => first.text fill ++ rest.text fill

def Chain.text (fill : List Char → List Char) : Chain → List Char
  | .done => []
  | .more connective after operand rest =>
    connective.char :: (after.chars ++ (operand.text fill ++ rest.text fill))

end

mutual

def Operand.names : Operand → List Name
  | .number .. => []
  | .name name _ => [name]
  | .group _ inside _ => inside.names
  | .signed _ _ operand => operand.names

def Expression.names : Expression → List Name
  | .mk first rest => first.names ++ rest.names

def Chain.names : Chain → List Name
  | .done => []
  | .more _ _ operand rest => operand.names ++ rest.names

end

inductive Part where
  | literal (literal : Literal)
  | sign (minus : Bool)
  | connective (connective : Connective)

mutual

def Operand.parts : Operand → List Part
  | .number literal _ => [.literal literal]
  | .name .. => []
  | .group _ inside _ => inside.parts
  | .signed minus _ operand => .sign minus :: operand.parts

def Expression.parts : Expression → List Part
  | .mk first rest => first.parts ++ rest.parts

def Chain.parts : Chain → List Part
  | .done => []
  | .more connective _ operand rest => .connective connective :: (operand.parts ++ rest.parts)

end

mutual

def Operand.nesting : Operand → Nat
  | .number .. | .name .. => 0
  | .group _ inside _ => inside.nesting + 1
  | .signed _ _ operand => operand.nesting

def Expression.nesting : Expression → Nat
  | .mk first rest => max first.nesting rest.nesting

def Chain.nesting : Chain → Nat
  | .done => 0
  | .more _ _ operand rest => max operand.nesting rest.nesting

end

/-! ## Folds -/

/-- What the parts of a tree come to. -/
structure Algebra (α : Type) where
  number : Literal → α
  name : Name → α
  signed : Bool → α → α
  join : Connective → α → α → α

def Chain.afterProduct : Chain → Chain
  | .done => .done
  | .more connective after operand rest =>
    if connective.isProduct then rest.afterProduct else .more connective after operand rest

mutual

def Operand.fold {α : Type} (algebra : Algebra α) : Operand → α
  | .number literal _ => algebra.number literal
  | .name name _ => algebra.name name
  | .group _ inside _ => inside.fold algebra
  | .signed minus _ operand => algebra.signed minus (operand.fold algebra)

def Expression.fold {α : Type} (algebra : Algebra α) : Expression → α
  | .mk first rest => rest.total algebra id (first.fold algebra)

def Chain.product {α : Type} (algebra : Algebra α) (left : α) : Chain → α
  | .done => left
  | .more connective _ operand rest =>
    if connective.isProduct then
      rest.product algebra (algebra.join connective left (operand.fold algebra))
    else left

/-- What a product makes with all that follows it; `close` joins it to what stands before. -/
def Chain.total {α : Type} (algebra : Algebra α) (close : α → α) (product : α) : Chain → α
  | .done => close product
  | .more connective _ operand rest =>
    if connective.isProduct then
      rest.total algebra close (algebra.join connective product (operand.fold algebra))
    else rest.total algebra (algebra.join connective (close product)) (operand.fold algebra)

end

/-! ## Formulas -/

inductive Numeral where
  | int (n : Nat)
  | float (x : Float)

def Numeral.mark : Numeral → Formula.Mark
  | int n => .int n
  | float x => .float x

def Numeral.formula : Numeral → Formula
  | int n => .literal (.int n)
  | float x => .literal (.float x)

def Literal.numeral : Literal → Numeral
  | integer digits _ => .int (Formula.valueIn 10 digits)
  | real digits places _ => .float (Formula.doubleOf digits places 0)

structure Spelled where
  negative : Bool
  numeral : Numeral

def Spelled.marks (spelled : Spelled) : List Formula.Mark :=
  if spelled.negative then [.sign "-", spelled.numeral.mark] else [spelled.numeral.mark]

def Spelled.formula (spelled : Spelled) : Formula :=
  if spelled.negative then .signed .minus spelled.numeral.formula else spelled.numeral.formula

def signSpelling (minus : Bool) : String := if minus then "-" else "+"

def sign (minus : Bool) : Formula.Sign := if minus then .minus else .plus

section
variable (spelling : List Char → Spelled)

mutual

def Operand.marks : Operand → List Formula.Mark
  | .number literal _ => [literal.numeral.mark]
  | .name name _ => (spelling name.chars).marks
  | .group _ inside _ => .sign "(" :: (inside.marks ++ [.sign ")"])
  | .signed minus _ operand => .sign (signSpelling minus) :: operand.marks

def Expression.marks : Expression → List Formula.Mark
  | .mk first rest => first.marks ++ rest.marks

def Chain.marks : Chain → List Formula.Mark
  | .done => []
  | .more connective _ operand rest => .sign connective.spelling :: (operand.marks ++ rest.marks)

end

/-- Formulas, with what is spelled in the place of each name. -/
def formulas : Algebra Formula where
  number literal := literal.numeral.formula
  name name := (spelling name.chars).formula
  signed minus operand := .signed (sign minus) operand
  join connective left right := .binary connective.operator left right

end

end Workbench.Arithmetic
