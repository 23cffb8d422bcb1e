/-! Assembly for MIPS as data, and how it is written. -/

set_option autoImplicit false

namespace Workbench.Mips

inductive Register where
  | temporary (index : Nat)
  | floating (index : Nat)
  | argument
  | value
  | named (name : String)
  deriving DecidableEq, Repr

def Register.name : Register → String
  | temporary index => "$t" ++ toString index
  | floating index => "$f" ++ toString index
  | argument => "$a0"
  | value => "$v0"
  | named name => name

inductive Precision where
  | word
  | single
  deriving DecidableEq, Repr

inductive Operation where
  | add
  | sub
  | mul
  | div
  deriving DecidableEq, Repr

def Operation.name : Operation → String
  | add => "add"
  | sub => "sub"
  | mul => "mul"
  | div => "div"

inductive Instruction where
  | immediate (precision : Precision) (target : Register) (literal : String)
  | load (precision : Precision) (target : Register) (label : String)
  | store (precision : Precision) (source : Register) (label : String)
  | compute (precision : Precision) (operation : Operation) (target left right : Register)
  | syscall
  deriving DecidableEq, Repr

def Instruction.render : Instruction → String
  | immediate .word target literal => "li " ++ target.name ++ ", " ++ literal
  | immediate .single target literal => "li.s " ++ target.name ++ ", " ++ literal
  | load .word target label => "lw " ++ target.name ++ ", " ++ label
  | load .single target label => "l.s " ++ target.name ++ ", " ++ label
  | store .word source label => "sw " ++ source.name ++ ", " ++ label
  | store .single source label => "s.s " ++ source.name ++ ", " ++ label
  | compute precision operation target left right =>
    operation.name ++ (match precision with | .word => " " | .single => ".s ") ++
      target.name ++ ", " ++ left.name ++ ", " ++ right.name
  | syscall => "syscall"

inductive Item where
  | dataSection
  | word (label : String)
  | float (label : String) (value : String)
  | textSection
  | entryPoint
  | instruction (body : Instruction)
  deriving DecidableEq, Repr

def Item.render : Item → String
  | dataSection => ".data"
  | word label => label ++ ": .word 0"
  | float label value => label ++ ": .float " ++ value
  | textSection => "\n.text"
  | entryPoint => "main:"
  | instruction body => "    " ++ body.render

def listing (items : List Item) : String := "\n".intercalate (items.map Item.render)

end Workbench.Mips
