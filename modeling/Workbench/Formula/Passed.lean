import Workbench.Formula.World

/-! The arguments of a call, and how they reach the parameters of a method or a function. -/

set_option autoImplicit false

namespace Workbench.Formula

structure Passed where
  positional : List Value := []
  named : List (String × Value) := []

namespace Passed

def count (passed : Passed) : Nat := passed.positional.length

/-- The methods of this section are told by the type that has them, and by their own name. -/
structure Title where
  type : String
  method : String

def Title.full (title : Title) : String := title.type ++ "." ++ title.method

def unnamed (title : Title) (passed : Passed) : Except Fault Unit :=
  if passed.named.isEmpty then pure () else throw (.misuse (.takesNoNames title.full))

def nothing (title : Title) (passed : Passed) : Except Fault Unit := do
  passed.unnamed title
  if passed.count != 0 then throw (.misuse (.takesNone title.full passed.count))

def single (title : Title) (passed : Passed) : Except Fault Value := do
  passed.unnamed title
  match passed.positional with
  | [value] => pure value
  | values => throw (.misuse (.takesOne title.full values.length))

def between (title : Title) (least most : Nat) (passed : Passed) : Except Fault (List Value) := do
  passed.unnamed title
  let exact := least == most
  if passed.count < least then
    throw (.misuse (.expected title.method (if exact then .exactly least else .atLeast least) passed.count))
  if most < passed.count then
    throw (.misuse (.expected title.method (if exact then .exactly most else .atMost most) passed.count))
  return passed.positional

def counted (title : Title) (least most : Nat) (passed : Passed) : Except Fault (List Value) := do
  passed.unnamed title
  let exact := least == most
  if passed.count < least then
    throw (.misuse (.takes title.method (if exact then .exactly least else .atLeast least) passed.count))
  if most < passed.count then
    throw (.misuse (.takes title.method (if exact then .exactly most else .atMost most) passed.count))
  return passed.positional

def argument (title : Title) (passed : Passed) (position : Nat) (word : String) :
    Except Fault (Option Value) :=
  match passed.positional[position]?, lookup? word passed.named with
  | some _, some _ => throw (.misuse (.givenTwice title.method word (position + 1)))
  | some value, none => pure (some value)
  | none, value => pure value

def argumentsFrom (title : Title) (passed : Passed) (least : Nat) :
    Nat → List String → Except Fault (List (Option Value))
  | _, [] => pure []
  | position, word :: rest => do
    let value ← passed.argument title position word
    if value.isNone && position < least then
      throw (.misuse (.missing title.method word (position + 1)))
    return value :: (← argumentsFrom title passed least (position + 1) rest)

/-- The arguments for parameters with names, of which the first so many are required, and only the first
so many may come by position. -/
def arguments (title : Title) (words : List String) (least most : Nat) (passed : Passed) :
    Except Fault (List (Option Value)) := do
  let given := passed.count + passed.named.length
  if words.length < given then
    let arity : Arity := if least < words.length then .atMost words.length else .exactly words.length
    throw (.misuse (.takes title.method arity given))
  if most < passed.count then
    if most == 0 then throw (.misuse (.takesOnlyNames title.method))
    throw (.misuse (.takesByPosition title.method (.atMost most) passed.count))
  let values ← passed.argumentsFrom title least 0 words
  match passed.named.find? fun entry => !words.contains entry.1 with
  | some (word, _) => throw (.misuse (.unknownName title.method word))
  | none => return values

def pick (values : List (Option Value)) (index : Nat) : Option Value := (values[index]?).join

end Passed

/-! Functions that formulas define. -/

def Signature.byPosition (signature : Signature) : List Parameter :=
  signature.parameters.filter fun parameter => parameter.passing != .named

/-- Gives the named arguments to the parameters; what no parameter takes is kept apart. -/
def Signature.takeNamed (signature : Signature) (callee : String) (all : List (String × Value)) :
    List (String × Value) → List (String × Value) → List (String × Value) →
      Except Fault (List (String × Value) × List (String × Value))
  | [], bound, others => pure (bound, others)
  | (word, value) :: rest, bound, others =>
    if signature.parameters.any fun parameter =>
        parameter.word == word && parameter.passing != .positional then
      if (lookup? word bound).isSome then throw (.mismatch callee (.twice word))
      else signature.takeNamed callee all rest (bound ++ [(word, value)]) others
    else if signature.othersNamed.isSome then
      signature.takeNamed callee all rest bound (others ++ [(word, value)])
    else
      let misnamed := signature.parameters.filter fun parameter =>
        parameter.passing == .positional && (lookup? parameter.word all).isSome
      if misnamed.isEmpty then throw (.mismatch callee (.unexpected word))
      else throw (.mismatch callee (.byNameOnly (misnamed.map Parameter.word)))

def fallbacks (callee sort : String) (parameters : List Parameter) (bound : List (String × Value)) :
    Except Fault (List (String × Value)) :=
  let unset := parameters.filter fun parameter => (lookup? parameter.word bound).isNone
  let missing := unset.filter fun parameter => parameter.fallback.isNone
  if missing.isEmpty then
    pure (unset.filterMap fun parameter => parameter.fallback.map fun value => (parameter.word, value))
  else throw (.mismatch callee (.missing sort (missing.map Parameter.word)))

def Signature.bound (signature : Signature) (callee : String) (passed : Passed) :
    Eval (List (String × Value)) := do
  let byPosition := signature.byPosition
  let direct := (byPosition.map Parameter.word).zip passed.positional
  let further := passed.positional.drop byPosition.length
  let (bound, others) ← signature.takeNamed callee passed.named passed.named direct []
  if !further.isEmpty && signature.others.isNone then
    let least := (byPosition.filter fun parameter => parameter.fallback.isNone).length
    throw (.mismatch callee
      (.tooMany least byPosition.length passed.count (bound.length - direct.length -
        (bound.drop direct.length).countP fun entry => byPosition.any fun p => p.word == entry.1)))
  let first ← fallbacks callee "positional" byPosition bound
  let byName := signature.parameters.filter fun parameter => parameter.passing == .named
  let second ← fallbacks callee "keyword-only" byName bound
  let collected := signature.others.toList.map fun word => (word, Value.tuple further)
  let named ← match signature.othersNamed with
    | some word => do
      let mapping ← newMapping (others.map fun (word, value) => (.text (Text.codes word), value))
      pure [(word, mapping)]
    | none => pure []
  return bound ++ first ++ second ++ collected ++ named

end Workbench.Formula
