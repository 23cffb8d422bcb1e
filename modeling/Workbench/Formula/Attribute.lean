import Workbench.Formula.Method.Bytes
import Workbench.Formula.Method.Number
import Workbench.Formula.Method.Operator
import Workbench.Formula.Method.Sequence

/-! What values have under names: parts, methods, and their type. -/

set_option autoImplicit false

namespace Workbench.Formula

def methodsOf : String → List String
  | "str" => TextMethod.names
  | "bytes" => BytesMethod.names
  | "int" | "bool" => NumberMethod.integerNames
  | "float" => NumberMethod.floatNames
  | "complex" => NumberMethod.complexNames
  | "tuple" => SequenceMethod.tupleNames
  | "list" => SequenceMethod.listNames
  | "set" => CollectionMethod.setNames
  | "dict" => CollectionMethod.mappingNames
  | "slice" => ["indices"]
  | "generator" => ["close", "send"]
  | "dict_keys" | "dict_items" => ["isdisjoint"]
  | _ => []

def hasMethod (type word : String) : Bool :=
  (methodsOf type).contains word || (OperatorMethod.namesOf type).contains word ||
    OperatorMethod.commonNames.contains word

def ancestry : String → List String
  | "object" => ["object"]
  | "bool" => ["bool", "int", "object"]
  | word => [word, "object"]

def typeTuple (words : List String) : Value := .tuple (words.map .type)

def typePart? (type : String) : String → Option Value
  | "__name__" | "__qualname__" => some (.text (Text.codes type))
  | "__module__" => some (.text (Text.codes "builtins"))
  | "__base__" => some ((ancestry type)[1]?.elim .nothing .type)
  | "__bases__" => some (typeTuple ((ancestry type).drop 1 |>.take 1))
  | "__mro__" => some (typeTuple (ancestry type))
  | _ => none

def numberPart? (value : Value) (word : String) : Option Value :=
  match value, value.integer?, word with
  | _, some n, "real" | _, some n, "numerator" => some (.int n)
  | _, some _, "imag" => some (.int 0)
  | _, some _, "denominator" => some (.int 1)
  | .float x, _, "real" => some (.float x)
  | .float _, _, "imag" => some (.float 0.0)
  | .complex z, _, "real" => some (.float z.re)
  | .complex z, _, "imag" => some (.float z.im)
  | _, _, _ => none

def part? (value : Value) (word : String) : Eval (Option Value) := do
  if word == "__class__" then return some (.type value.typeName)
  match value with
  | .slice start stop step =>
    match word with
    | "start" => return some start
    | "stop" => return some stop
    | "step" => return some step
    | _ => return none
  | .method owner method =>
    match word with
    | "__name__" => return some (.text (Text.codes method))
    | "__qualname__" => return some (.text (Text.codes (owner.typeName ++ "." ++ method)))
    | "__self__" => return some owner
    | _ => return none
  | .function place =>
    match ← objectAt? place, word with
    | some (.function _), "__name__" => return some (.text (Text.codes "<lambda>"))
    | some (.function definition), "__qualname__" => return some (.text (Text.codes definition.title))
    | _, _ => return none
  | .type type => return typePart? type word
  | .object _ place => return lookup? word (← partsAt place)
  | value => return numberPart? value word

/-- What a value has under a name. What can change has no hash. -/
def fieldOf (value : Value) (word : String) : Eval Value := do
  match ← part? value word with
  | some part => return part
  | none =>
    match value with
    | .type type =>
      if hasMethod type word then return .method value word else throw (.noTypeAttribute type word)
    | value =>
      if word == "__hash__" && value.unhashable? == some value.typeName then return .nothing
      if hasMethod value.typeName word then return .method value word
      throw (.noAttribute value.typeName word)

end Workbench.Formula
