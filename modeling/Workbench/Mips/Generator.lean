import Workbench.Mips.Instruction
import Workbench.Script.Reader

/-! Generating assembly from records. An expression is cut at its operator signs and computed from
left to right, the running value in register zero and each operand in a register of its own. -/

set_option autoImplicit false

namespace Workbench.Mips

inductive GenerationError where
  | missing (field : MissingField)
  /-- There are not enough operands for the operators. -/
  | missingOperand
  | unknownOperator (sign : String)
  deriving DecidableEq, Repr

def GenerationError.message : GenerationError → String
  | missing field => "'" ++ field.field ++ "'"
  | missingOperand => "list index out of range"
  | unknownOperator sign => Text.quoted sign

structure Emission where
  items : List Item
  error : Option GenerationError := none
  deriving DecidableEq, Repr

namespace Emission

def fail (error : GenerationError) : Emission := ⟨[], some error⟩

/-- What comes after is generated only if nothing went wrong before. -/
def followedBy (first : Emission) (next : Emission) : Emission :=
  match first.error with
  | some error => ⟨first.items, some error⟩
  | none => ⟨first.items ++ next.items, next.error⟩

def ofInstructions (instructions : List Instruction) : Emission :=
  ⟨instructions.map .instruction, none⟩

def reading {α : Type} (field : Except MissingField α) (next : α → Emission) : Emission :=
  match field with
  | .ok value => next value
  | .error missing => fail (.missing missing)

end Emission

def isOperatorSign (c : Char) : Bool := c == '+' || c == '-' || c == '*' || c == '/'

def operators (expression : List Char) : List Char := expression.filter isOperatorSign

def operands : List Char → List (List Char)
  | [] => [[]]
  | c :: rest =>
    if isOperatorSign c then [] :: operands rest
    else match operands rest with
      | [] => [[c]]
      | first :: others => (c :: first) :: others

/-- A literal is all digits or has a point in it; anything else is a label. -/
def isLiteral (operand : List Char) : Bool :=
  (!operand.isEmpty && operand.all Text.isDigit) || operand.contains '.'

def loadOperand (precision : Precision) (operand : String) (target : Register) : Instruction :=
  if isLiteral operand.toList then .immediate precision target operand
  else .load precision target operand

def register : Precision → Nat → Register
  | .word, index => .temporary index
  | .single, index => .floating index

def operation? (sign : String) : Option Operation :=
  if sign == "+" then some .add
  else if sign == "-" then some .sub
  else if sign == "*" then some .mul
  else if sign == "/" then some .div
  else none

def trimmed (text : String) : String := String.ofList (Text.trim text.toList)

/-- Each operator takes the next operand, in the register with the given index. -/
def applyOperators (precision : Precision) : Nat → List String → List String → Emission
  | _, _, [] => .ofInstructions []
  | _, [], _ :: _ => .fail .missingOperand
  | index, operand :: operands, sign :: signs =>
    let target := register precision index
    (Emission.ofInstructions [loadOperand precision (trimmed operand) target]).followedBy <|
      match operation? sign with
      | none => .fail (.unknownOperator sign)
      | some operation =>
        (Emission.ofInstructions
          [.compute precision operation (register precision 0) (register precision 0) target]).followedBy
          (applyOperators precision (index + 1) operands signs)

def computeInto (precision : Precision) (operands operators : List String) (label : String) :
    Emission :=
  match operands with
  | [] => .fail .missingOperand
  | first :: others =>
    ((Emission.ofInstructions
      [loadOperand precision (trimmed first) (register precision 0)]).followedBy
      (applyOperators precision 1 others operators)).followedBy
      (.ofInstructions [.store precision (register precision 0) label])

def precision? (varType : String) : Option Precision :=
  if varType == "int" then some .word
  else if varType == "float" then some .single
  else none

def assignment (record : Record) : Emission :=
  .reading record.requireExpression fun expression =>
    .reading record.requireVarType fun varType =>
      match precision? varType with
      | none => .ofInstructions []
      | some precision =>
        .reading record.requireName fun name =>
          computeInto precision ((operands expression.toList).map String.ofList)
            ((operators expression.toList).map Char.toString) name

def printArguments (varType : String) (record : Record) : Emission :=
  match precision? varType with
  | none => .ofInstructions []
  | some .word =>
    .reading record.requireName fun name =>
      .ofInstructions [.load .word .argument name, .immediate .word .value "1"]
  | some .single =>
    .reading record.requireName fun name =>
      .ofInstructions [.load .single (.floating 12) name, .immediate .word .value "2"]

def print (record : Record) : Emission :=
  .reading record.requireVarType fun varType =>
    (printArguments varType record).followedBy (.ofInstructions [.syscall])

/-- The initial value of a `float` variable is zero unless another one is given. -/
def initialText (initial : Option Datum) : String := (initial.getD (.float 0.0)).shown

def datum (record : Record) : Emission :=
  .reading record.requireAction fun action =>
    if action == "declaration" then
      .reading record.requireVarType fun varType =>
        match precision? varType with
        | none => ⟨[], none⟩
        | some .word => .reading record.requireName fun name => ⟨[.word name], none⟩
        | some .single =>
          .reading record.requireName fun name => ⟨[.float name (initialText record.initial)], none⟩
    else ⟨[], none⟩

def code (record : Record) : Emission :=
  .reading record.requireAction fun action =>
    if action == "assignment" then assignment record
    else if action == "print" then print record
    else ⟨[], none⟩

def each (generate : Record → Emission) : List Record → Emission
  | [] => ⟨[], none⟩
  | record :: rest => (generate record).followedBy (each generate rest)

def generate (records : List Record) : Emission :=
  (((Emission.mk [.dataSection] none).followedBy (each datum records)).followedBy
    ⟨[.textSection, .entryPoint], none⟩).followedBy
    ((each code records).followedBy (.ofInstructions [.immediate .word .value "10", .syscall]))

def ofSource (source : String) : Emission := generate (Record.ofSource source)

end Workbench.Mips
