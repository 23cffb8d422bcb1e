import Workbench.Formula.Layout
import Workbench.Formula.Method.Collection
import Workbench.Formula.Spelled

/-! The operators as methods: every operator has a name under which its left side, and sometimes its
right side, answers to it. -/

set_option autoImplicit false

namespace Workbench.Formula

open Text (Codes)

namespace OperatorMethod

def arithmetic : List (String × Operator) :=
  [("add", .add), ("sub", .sub), ("mul", .mul), ("truediv", .div), ("floordiv", .floorDiv),
   ("mod", .mod), ("pow", .pow), ("and", .bitAnd), ("or", .bitOr), ("xor", .bitXor),
   ("lshift", .shiftLeft), ("rshift", .shiftRight)]

def lined (word : String) : String := "__" ++ word ++ "__"

/-- The operator behind a name, and whether the owner is on its right side. -/
def operator? (word : String) : Option (Operator × Bool) :=
  arithmetic.findSome? fun (short, operator) =>
    if word == lined short then some (operator, false)
    else if word == lined ("r" ++ short) then some (operator, true)
    else none

def comparison? : String → Option Comparison
  | "__lt__" => some .lt
  | "__le__" => some .le
  | "__gt__" => some .gt
  | "__ge__" => some .ge
  | "__eq__" => some .eq
  | "__ne__" => some .ne
  | _ => none

def bothSides (words : List String) : List String :=
  words.map lined ++ words.map fun short => lined ("r" ++ short)

def integerNames : List String :=
  bothSides (arithmetic.map Prod.fst ++ ["divmod"]) ++
    ["__neg__", "__pos__", "__abs__", "__invert__", "__bool__", "__int__", "__float__", "__index__",
     "__trunc__", "__floor__", "__ceil__", "__round__"]

def floatNames : List String :=
  bothSides ["add", "sub", "mul", "truediv", "floordiv", "mod", "pow", "divmod"] ++
    ["__neg__", "__pos__", "__abs__", "__bool__", "__int__", "__float__", "__trunc__", "__floor__",
     "__ceil__", "__round__"]

def complexNames : List String :=
  bothSides ["add", "sub", "mul", "truediv", "pow"] ++
    ["__neg__", "__pos__", "__abs__", "__bool__", "__complex__"]

def sequenceNames : List String :=
  ["__add__", "__mul__", "__rmul__", "__len__", "__contains__", "__getitem__", "__iter__"]

def namesOf : String → List String
  | "int" | "bool" => integerNames
  | "float" => floatNames
  | "complex" => complexNames
  | "str" | "bytes" => "__mod__" :: "__rmod__" :: sequenceNames
  | "tuple" => sequenceNames
  | "list" => "__setitem__" :: sequenceNames
  | "set" =>
    "__len__" :: "__contains__" :: "__iter__" :: bothSides ["and", "or", "sub", "xor"]
  | "dict" =>
    ["__len__", "__contains__", "__getitem__", "__setitem__", "__iter__", "__or__", "__ror__"]
  | "dict_keys" | "dict_items" => ["__len__", "__contains__", "__iter__"]
  | "dict_values" => ["__len__", "__iter__"]
  | "NoneType" => ["__bool__"]
  | "function" | "method-wrapper" | "builtin_function_or_method" => ["__call__"]
  | "generator" => ["__iter__", "__next__"]
  | word => if word.endsWith "iterator" then ["__iter__", "__next__"] else []

def commonNames : List String :=
  ["__lt__", "__le__", "__gt__", "__ge__", "__eq__", "__ne__", "__hash__", "__repr__", "__str__",
   "__format__"]

def accepts (operator : Operator) (reflected : Bool) (owner other : Value) : Bool :=
  match owner with
  | .int _ | .truth _ => other.integer?.isSome
  | .float _ => other.number?.isSome
  | .complex _ => (toComplex? other).isSome
  | .set _ => other.typeName == "set"
  | .mapping _ => other.typeName == "dict"
  | owner => !(operator == .mod && reflected) || other.typeName == owner.typeName

def comparable (comparison : Comparison) (owner other : Value) : Bool :=
  match owner with
  | .int _ | .truth _ => other.integer?.isSome
  | .float _ => other.number?.isSome
  | .complex _ => (comparison == .eq || comparison == .ne) && (toComplex? other).isSome
  | .text _ | .bytes _ | .tuple _ | .list _ | .set _ | .view .keys _ | .view .entries _ | .slice .. =>
    other.typeName == owner.typeName
  | .mapping _ => (comparison == .eq || comparison == .ne) && other.typeName == "dict"
  | owner => (comparison == .eq || comparison == .ne) && owner.identical other

def roundInteger (n : Int) (places : Int) : Int :=
  if 0 ≤ places then n
  else
    let unit := Number.tenTo (min (-places).toNat (n.natAbs.log2 + 2))
    let rounded : Int := (Number.roundQuotient n.natAbs unit * unit : Nat)
    if n < 0 then -rounded else rounded

def roundFloat (x : Float) (places : Int) : Except Fault Value :=
  match Number.Binary64.ofFloat x with
  | .undefined | .infinite _ => pure (.float x)
  | .finite negative significand exponent =>
    if 400 < places then pure (.float x)
    else if places < -400 then pure (.float (if negative then -0.0 else 0.0))
    else
      let up := significand * Number.twoTo exponent.toNat * Number.tenTo places.toNat
      let down := Number.twoTo (-exponent).toNat * Number.tenTo (-places).toNat
      let rounded := Number.roundQuotient up down
      match Number.nearest? negative (rounded * Number.tenTo (-places).toNat)
          (Number.tenTo places.toNat) with
      | some y => pure (.float y)
      | none => throw .roundedTooLarge

def wholeFloat (word : String) (x : Float) : Except Fault Value :=
  match Number.Binary64.ofFloat x with
  | .undefined => throw .undefinedToInt
  | .infinite _ => throw .infiniteToInt
  | .finite negative significand exponent =>
    let numerator : Int := (significand * Number.twoTo exponent.toNat : Nat)
    let numerator := if negative then -numerator else numerator
    let denominator : Int := (Number.twoTo (-exponent).toNat : Nat)
    match word with
    | "__floor__" => pure (.int (numerator.fdiv denominator))
    | "__ceil__" => pure (.int (-((-numerator).fdiv denominator)))
    | "__round__" =>
      let rounded : Int := (Number.roundQuotient numerator.natAbs denominator.toNat : Nat)
      pure (.int (if negative then -rounded else rounded))
    | _ => pure (.int (Number.truncate negative significand exponent))

def operands (word : String) (count : Nat) (passed : Passed) : Except Fault (List Value) := do
  if !passed.named.isEmpty then throw (.misuse (.takesNoNames ("wrapper " ++ word)))
  if passed.count != count then throw (.misuse (.wanted count passed.count))
  return passed.positional

def powerModulo (modulus : Int) : Nat → Int → Nat → Int → Int
  | 0, _, _, result => result
  | fuel + 1, base, exponent, result =>
    if exponent == 0 then result
    else
      powerModulo modulus fuel ((base * base).fmod modulus) (exponent / 2)
        (if exponent % 2 == 1 then (result * base).fmod modulus else result)

def divided (x y : Value) : Eval Value := do
  match x.number?, y.number? with
  | some (.int _), some (.int n) => if n == 0 then throw .intFloorDivision
  | some _, some n => if (← toFloat n) == 0.0 then throw .floatDivmod
  | _, _ => pure ()
  return .tuple [← compute .floorDiv x y, ← compute .mod x y]

def lengthOf : Value → Eval Nat
  | .text codes | .bytes codes => pure codes.length
  | .tuple items => pure items.length
  | .list place => return (← listAt place).length
  | .set place => return (← setAt place).toList.length
  | .mapping place | .view _ place => return (← mappingAt place).length
  | _ => pure 0

def absolute : Value → Value
  | .float x => .float x.abs
  | .complex z => .float z.magnitude
  | value => .int (value.integer?.getD 0).natAbs

def rounded (owner : Value) (word : String) (arguments : List Value) : Eval Value :=
  match owner, arguments with
  | .float x, [] | .float x, .nothing :: _ => wholeFloat word x
  | .float x, places :: _ => do roundFloat x (← wordArgument places)
  | owner, [] | owner, .nothing :: _ => pure (.int (owner.integer?.getD 0))
  | owner, places :: _ =>
    match places.integer? with
    | some places => pure (.int (roundInteger (owner.integer?.getD 0) places))
    | none => throw (.notIndex places.typeName)

def callBinary (owner other : Value) (operator : Operator) (reflected : Bool) : Eval Value := do
  if !accepts operator reflected owner other then return .unsupported
  match owner, operator with
  | .text _, .mul | .bytes _, .mul | .tuple _, .mul | .list _, .mul =>
    if other.integer?.isNone then throw (.notIndex other.typeName)
  | _, _ => pure ()
  if reflected && !(operator == .mul) then compute operator other owner else compute operator owner other

def call (machine : Machine) (owner : Value) (word : String) (passed : Passed) : Eval Value := do
  match operator? word, comparison? word with
  | some (.pow, reflected), _ =>
    passed.unnamed ⟨"wrapper", word⟩
    match passed.positional with
    | [other] | [other, .nothing] => callBinary owner other .pow reflected
    | [other, modulus] =>
      match owner.integer?, other.integer?, modulus.integer? with
      | some base, some exponent, some modulus =>
        if modulus == 0 then throw .powerModulus
        if exponent < 0 then return .unsupported
        return .int (powerModulo modulus (exponent.toNat.log2 + 1) (base.fmod modulus) exponent.toNat
          ((1 : Int).fmod modulus))
      | _, _, _ => return .unsupported
    | values => throw (.misuse (.unpacked (if values.isEmpty then .atLeast 1 else .atMost 2) values.length))
  | some (operator, reflected), _ =>
    match ← operands word 1 passed with
    | other :: _ => callBinary owner other operator reflected
    | [] => return .unsupported
  | none, some comparison =>
    match ← operands word 1 passed with
    | other :: _ =>
      if comparable comparison owner other then compareValues machine comparison owner other
      else return .unsupported
    | [] => return .unsupported
  | none, none =>
    match word with
    | "__divmod__" | "__rdivmod__" =>
      match ← operands word 1 passed with
      | other :: _ =>
        if !accepts .floorDiv false owner other then return .unsupported
        if word == "__divmod__" then divided owner other else divided other owner
      | [] => return .unsupported
    | "__neg__" =>
      let _ ← operands word 0 passed
      applySign .minus owner
    | "__pos__" =>
      let _ ← operands word 0 passed
      applySign .plus owner
    | "__invert__" =>
      let _ ← operands word 0 passed
      applySign .invert owner
    | "__abs__" =>
      let _ ← operands word 0 passed
      return absolute owner
    | "__bool__" =>
      let _ ← operands word 0 passed
      return .truth (← isTrue owner)
    | "__int__" | "__index__" =>
      let _ ← operands word 0 passed
      match owner with
      | .float x => wholeFloat word x
      | owner => return .int (owner.integer?.getD 0)
    | "__float__" =>
      let _ ← operands word 0 passed
      return .float (← toFloat (owner.number?.getD (.int 0)))
    | "__trunc__" | "__floor__" | "__ceil__" =>
      passed.nothing ⟨owner.typeName, word⟩
      rounded owner word []
    | "__round__" => rounded owner word (← passed.between ⟨owner.typeName, word⟩ 0 1)
    | "__complex__" =>
      passed.nothing ⟨owner.typeName, word⟩
      return owner
    | "__len__" =>
      let _ ← operands word 0 passed
      return .int (← lengthOf owner)
    | "__contains__" =>
      match ← operands word 1 passed with
      | other :: _ => return .truth (← member machine other owner)
      | [] => return .unsupported
    | "__getitem__" =>
      match ← operands word 1 passed with
      | other :: _ => subscriptOf owner other
      | [] => return .unsupported
    | "__setitem__" =>
      if passed.count != 2 then
        throw (.misuse (.unpacked (.exactly 2) passed.count))
      match passed.positional with
      | index :: value :: _ =>
        assignItem owner index value
        return .nothing
      | _ => return .nothing
    | "__iter__" =>
      let _ ← operands word 0 passed
      iteratorOf .notIterable owner
    | "__next__" =>
      let _ ← operands word 0 passed
      match ← next machine stepLimit owner with
      | some item => return item
      | none => throw .exhausted
    | "__call__" => machine.apply owner passed
    | "__hash__" =>
      let _ ← operands word 0 passed
      return .int ((owner.hash : Int).bmod wordSize)
    | "__repr__" =>
      let _ ← operands word 0 passed
      return .text (Text.codes (← written owner))
    | "__str__" =>
      let _ ← operands word 0 passed
      return .text (← shown owner)
    | "__format__" =>
      match ← passed.single ⟨owner.typeName, word⟩ with
      | .text description => return .text (← laidOut owner description)
      | value => throw (.layoutNotText value.typeName)
    | _ => throw (.noAttribute owner.typeName word)

end OperatorMethod

end Workbench.Formula
