import Workbench.Formula.Arithmetic
import Workbench.Formula.Method.Basic

/-! The methods of sets and mappings. -/

set_option autoImplicit false

namespace Workbench.Formula

namespace CollectionMethod

def setNames : List String :=
  ["add", "clear", "copy", "difference", "difference_update", "discard", "intersection",
   "intersection_update", "isdisjoint", "issubset", "issuperset", "pop", "remove",
   "symmetric_difference", "symmetric_difference_update", "union", "update"]

def mappingNames : List String :=
  ["clear", "copy", "fromkeys", "get", "items", "keys", "pop", "popitem", "setdefault", "update",
   "values"]

def membersFrom (machine : Machine) : Value → Eval Members
  | .set place => setAt place
  | value => do addKeys (← itemsOf machine .notIterable value) {}

def unitedWith (machine : Machine) (members : Members) : List Value → Eval Members
  | [] => pure members
  | value :: rest => do
    let united ← match value with
      | .set place => do pure (members.merge (← setAt place))
      | .mapping place => do
        let keys := (← mappingAt place).map Prod.fst
        addKeys keys (members.makeRoom keys.length)
      | value => do addKeys (← itemsOf machine .notIterable value) members
    unitedWith machine united rest

def combinedWith (machine : Machine) (operator : Operator) (members : Members) :
    List Value → Eval Members
  | [] => pure members
  | value :: rest => do
    let others ← membersFrom machine value
    combinedWith machine operator ((combineSets operator members others).getD members) rest

/-- The combination that a method stands for, and whether it changes the set itself. -/
def combination? : String → Option (Option Operator × Bool)
  | "difference" => some (some .sub, false)
  | "difference_update" => some (some .sub, true)
  | "intersection" => some (some .bitAnd, false)
  | "intersection_update" => some (some .bitAnd, true)
  | "union" => some (none, false)
  | "update" => some (none, true)
  | _ => none

def callSet (machine : Machine) (place : Nat) (word : String) (passed : Passed) : Eval Value := do
  let title : Passed.Title := ⟨"set", word⟩
  let members ← setAt place
  match combination? word with
  | some (operator, inPlace) =>
    passed.unnamed title
    let start := if inPlace then members else Members.merge {} members
    let combined ← match operator with
      | none => unitedWith machine start passed.positional
      | some operator => combinedWith machine operator start passed.positional
    if inPlace then
      replace place (.set combined)
      return .nothing
    newSet combined
  | none =>
    match word with
    | "add" =>
      let item ← passed.single title
      requireKey item
      replace place (.set (members.add item))
      return .nothing
    | "clear" =>
      passed.nothing title
      replace place (.set {})
      return .nothing
    | "copy" =>
      passed.nothing title
      newSet (Members.merge {} members)
    | "discard" | "remove" =>
      let item ← passed.single title
      match item with
      | .set _ => pure ()
      | item => requireKey item
      if word == "remove" && !members.contains item then missingKey item
      replace place (.set (members.remove item))
      return .nothing
    | "isdisjoint" =>
      let others ← membersFrom machine (← passed.single title)
      return .truth !(others.toList.any members.contains)
    | "issubset" =>
      let others ← membersFrom machine (← passed.single title)
      return .truth (within members.toList others.toList)
    | "issuperset" =>
      let others ← membersFrom machine (← passed.single title)
      return .truth (within others.toList members.toList)
    | "pop" =>
      passed.nothing title
      match members.toList with
      | [] => throw .emptySet
      | item :: _ =>
        replace place (.set (members.remove item))
        return item
    | "symmetric_difference" | "symmetric_difference_update" =>
      let others ← membersFrom machine (← passed.single title)
      let combined := (combineSets .bitXor members others).getD members
      if word == "symmetric_difference" then newSet combined
      else
        replace place (.set combined)
        return .nothing
    | _ => throw (.noAttribute "set" word)

def entryFrom (machine : Machine) (index : Nat) (value : Value) : Eval (Value × Value) := do
  match ← itemsOf machine (fun _ => .pairNotSequence index) value with
  | [key, content] =>
    requireKey key
    return (key, content)
  | items => throw (.pairLength index items.length)

def entriesFrom (machine : Machine) : Nat → List Value → Eval (List (Value × Value))
  | _, [] => pure []
  | index, value :: rest => do
    let entry ← entryFrom machine index value
    return entry :: (← entriesFrom machine (index + 1) rest)

def updates (machine : Machine) : Value → Eval (List (Value × Value))
  | .mapping place => mappingAt place
  | value => do entriesFrom machine 0 (← itemsOf machine .notIterable value)

def putAll (entries more : List (Value × Value)) : List (Value × Value) :=
  more.foldl (fun entries (key, value) => putEntry key value entries) entries

def callMapping (machine : Machine) (place : Nat) (word : String) (passed : Passed) : Eval Value := do
  let title : Passed.Title := ⟨"dict", word⟩
  let entries ← mappingAt place
  match word with
  | "clear" =>
    passed.nothing title
    replace place (.mapping [])
    return .nothing
  | "copy" =>
    passed.nothing title
    newMapping entries
  | "fromkeys" =>
    let arguments ← passed.between title 1 2
    let keys ← itemsOf machine .notIterable (arguments[0]?.getD .nothing)
    keys.forM fun key => requireKey key
    newMapping (putAll [] (keys.map fun key => (key, arguments[1]?.getD .nothing)))
  | "get" | "pop" | "setdefault" =>
    let arguments ← passed.between title 1 2
    let key := arguments[0]?.getD .nothing
    if word != "pop" || !entries.isEmpty then requireKey key
    match entryOf? key entries, word with
    | some value, "pop" =>
      replace place (.mapping (entries.filter fun entry => !entry.1.same key))
      return value
    | some value, _ => return value
    | none, "get" => return arguments[1]?.getD .nothing
    | none, "pop" =>
      match arguments[1]? with
      | some value => return value
      | none => missingKey key
    | none, _ =>
      let value := arguments[1]?.getD .nothing
      replace place (.mapping (putEntry key value entries))
      return value
  | "items" =>
    passed.nothing title
    return .view .entries place
  | "keys" =>
    passed.nothing title
    return .view .keys place
  | "values" =>
    passed.nothing title
    return .view .values place
  | "popitem" =>
    passed.nothing title
    match entries.getLast? with
    | none => throw .emptyMapping
    | some (key, value) =>
      replace place (.mapping entries.dropLast)
      return .tuple [key, value]
  | "update" =>
    if 1 < passed.count then throw (.misuse (.expected word (.atMost 1) passed.count))
    let more ← match passed.positional with
      | value :: _ => updates machine value
      | [] => pure []
    let named := passed.named.map fun (word, value) => (Value.text (Text.codes word), value)
    replace place (.mapping (putAll (putAll (← mappingAt place) more) named))
    return .nothing
  | _ => throw (.noAttribute "dict" word)

end CollectionMethod

end Workbench.Formula
