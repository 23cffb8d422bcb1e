import Workbench.Formula.Fault
import Workbench.Number.Complex
import Workbench.Number.Shortest

/-! The values that formulas go through. Integers are unbounded, `float` values are doubles, and truth
values count as zero and one. What can change is known by its place in the world. -/

set_option autoImplicit false

namespace Workbench

inductive Number where
  | int (n : Int)
  | float (x : Float)

namespace Formula

open Text (Codes)

inductive View where
  | keys
  | values
  | entries
  deriving DecidableEq, Repr

inductive Value where
  | int (n : Int)
  | float (x : Float)
  | truth (b : Bool)
  | text (codes : Codes)
  | bytes (codes : Codes)
  | tuple (items : List Value)
  | nothing
  | ellipsis
  /-- What an operation answers that its operands do not support. -/
  | unsupported
  | complex (z : Number.Complex)
  | slice (start stop step : Value)
  /-- A type, by its name. -/
  | type (word : String)
  | method (owner : Value) (word : String)
  | list (place : Nat)
  | set (place : Nat)
  | mapping (place : Nat)
  | view (view : View) (place : Nat)
  | function (place : Nat)
  | generator (place : Nat)
  /-- Something that gives items one after the other, by the name of its type. -/
  | iterator (word : String) (place : Nat)
  /-- An object with parts of its own, by the name of its type. -/
  | object (word : String) (place : Nat)

namespace Value

/-- Methods that have no operator behind them although their names are those of one. -/
def plainMethods : List String :=
  ["__format__", "__round__", "__trunc__", "__floor__", "__ceil__", "__getnewargs__", "__sizeof__",
   "__complex__", "__bytes__", "__reversed__", "__length_hint__"]

def typeMethods : List String := ["from_bytes", "fromhex", "fromkeys", "maketrans"]

def typeName : Value → String
  | int _ => "int"
  | float _ => "float"
  | truth _ => "bool"
  | text _ => "str"
  | bytes _ => "bytes"
  | tuple _ => "tuple"
  | nothing => "NoneType"
  | ellipsis => "ellipsis"
  | unsupported => "NotImplementedType"
  | complex _ => "complex"
  | slice .. => "slice"
  | type _ => "type"
  | method (type _) word =>
    if typeMethods.contains word then "builtin_function_or_method"
    else if word.startsWith "__" && !plainMethods.contains word then "wrapper_descriptor"
    else "method_descriptor"
  | method _ word =>
    if word.startsWith "__" && !plainMethods.contains word then "method-wrapper"
    else "builtin_function_or_method"
  | list _ => "list"
  | set _ => "set"
  | mapping _ => "dict"
  | view .keys _ => "dict_keys"
  | view .values _ => "dict_values"
  | view .entries _ => "dict_items"
  | function _ => "function"
  | generator _ => "generator"
  | iterator word _ | object word _ => word

def integer? : Value → Option Int
  | int n => some n
  | truth b => some (if b then 1 else 0)
  | _ => none

def number? : Value → Option Number
  | float x => some (.float x)
  | value => value.integer?.map .int

end Value

def Literal.value : Literal → Value
  | int n => .int n
  | float x => .float x
  | imaginary x => .complex ⟨0.0, x⟩
  | text content => .text content
  | bytes content => .bytes content
  | truth b => .truth b
  | nothing => .nothing
  | ellipsis => .ellipsis

def toFloat : Number → Except Fault Float
  | .float x => pure x
  | .int n =>
    match Number.ofInt? n with
    | some x => pure x
    | none => throw .intTooLarge

def fitsWord (n : Int) : Bool := -(Number.twoTo 63 : Int) ≤ n && n < (Number.twoTo 63 : Int)

def memoryLimit : Nat := Number.twoTo 36

end Formula

end Workbench
