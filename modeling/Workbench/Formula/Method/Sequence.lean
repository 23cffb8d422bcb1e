import Workbench.Formula.Method.Basic

/-! The methods of lists and tuples. -/

set_option autoImplicit false

namespace Workbench.Formula

namespace SequenceMethod

def tupleNames : List String := ["count", "index"]

def listNames : List String :=
  ["append", "clear", "copy", "count", "extend", "index", "insert", "pop", "remove", "reverse", "sort"]

def occurrences (x : Value) : List Value → Eval Nat
  | [] => pure 0
  | item :: rest => do
    let here ← equals item x
    return (if here then 1 else 0) + (← occurrences x rest)

def firstIndex? (x : Value) : Nat → List Value → Eval (Option Nat)
  | _, [] => pure none
  | index, item :: rest => do
    if ← equals item x then return some index else firstIndex? x (index + 1) rest

def searchBound (length : Nat) (default : Int) : Option Value → Except Fault Int
  | none => pure default
  | some value =>
    match value.integer? with
    | none => throw .searchBound
    | some n => pure (if n < 0 then max 0 (n + length) else n)

def indexOf? (items arguments : List Value) : Eval (Option Nat) := do
  let low ← searchBound items.length 0 arguments[1]?
  let high ← searchBound items.length items.length arguments[2]?
  firstIndex? (arguments[0]?.getD .nothing) low.toNat ((items.take high.toNat).drop low.toNat)

/-! Sorting. Values with keys are put one after the other into what is in order already, after all that
are not greater; questions are asked by `<` alone. -/

abbrev Keyed := Value × Value

def before (x y : Keyed) : Eval Bool := Comparison.decide .lt comparisonDepth x.1 y.1

/-- How many of the first values are in order, or, if `falling`, all in reverse order. -/
def runLength (falling : Bool) (last : Keyed) : List Keyed → Eval Nat
  | [] => pure 0
  | item :: rest => do
    if (← before item last) == falling then return (← runLength falling item rest) + 1 else return 0

/-- Where a value belongs among those from `low` to `high`, which are halved; `fuel` bounds how often. -/
def placeFor (sorted : Array Keyed) (item : Keyed) : Nat → Nat → Nat → Eval Nat
  | 0, low, _ => pure low
  | fuel + 1, low, high =>
    if high ≤ low then pure low
    else
      let middle := low + (high - low) / 2
      match sorted[middle]? with
      | none => pure low
      | some other => do
        if ← before item other then placeFor sorted item fuel low middle
        else placeFor sorted item fuel (middle + 1) high

def insertAll (sorted : Array Keyed) : List Keyed → Eval (Array Keyed)
  | [] => pure sorted
  | item :: rest => do
    let place ← placeFor sorted item (sorted.size + 1) 0 sorted.size
    insertAll (sorted.insertIdxIfInBounds place item) rest

/-- The values in order of their keys; those with equal keys stay as they are. -/
def sorted (items : List Keyed) : Eval (List Keyed) := do
  match items with
  | first :: second :: rest =>
    let falling ← before second first
    let count := (← runLength falling second rest) + 2
    let run := items.take count
    let start := if falling then run.reverse else run
    return (← insertAll start.toArray (items.drop count)).toList
  | items => return items

def keyed (machine : Machine) (key : Value) : List Value → Eval (List Keyed)
  | [] => pure []
  | item :: rest => do
    let first ← match key with
      | .nothing => pure item
      | key => machine.apply key ⟨[item], []⟩
    return (first, item) :: (← keyed machine key rest)

def sort (machine : Machine) (place : Nat) (key : Value) (descending : Bool) : Eval Unit := do
  let items ← listAt place
  replace place (.list [])
  let pairs ← keyed machine key items
  let ordered ← if descending then do pure (← sorted pairs.reverse).reverse else sorted pairs
  if !(← listAt place).isEmpty then throw .listChanged
  replace place (.list (ordered.map Prod.snd))

def callTuple (items : List Value) (word : String) (passed : Passed) : Eval Value := do
  let title : Passed.Title := ⟨"tuple", word⟩
  match word with
  | "count" => return .int (← occurrences (← passed.single title) items)
  | "index" =>
    match ← indexOf? items (← passed.between title 1 3) with
    | some index => return .int index
    | none => throw .notInTuple
  | _ => throw (.noAttribute "tuple" word)

def callList (machine : Machine) (place : Nat) (word : String) (passed : Passed) : Eval Value := do
  let title : Passed.Title := ⟨"list", word⟩
  let items ← listAt place
  match word with
  | "append" =>
    let item ← passed.single title
    replace place (.list (items ++ [item]))
    return .nothing
  | "clear" =>
    passed.nothing title
    replace place (.list [])
    return .nothing
  | "copy" =>
    passed.nothing title
    newList items
  | "count" => return .int (← occurrences (← passed.single title) items)
  | "extend" =>
    let more ← itemsOf machine .notIterable (← passed.single title)
    replace place (.list ((← listAt place) ++ more))
    return .nothing
  | "index" =>
    let arguments ← passed.between title 1 3
    match ← indexOf? items arguments with
    | some index => return .int index
    | none => throw (.notInList (← written (arguments[0]?.getD .nothing)))
  | "insert" =>
    let arguments ← passed.between title 2 2
    let index ← wordArgument (arguments[0]?.getD .nothing)
    let index := (if index < 0 then max 0 (index + items.length) else index).toNat
    replace place (.list (items.take index ++ arguments[1]?.getD .nothing :: items.drop index))
    return .nothing
  | "pop" =>
    let arguments ← passed.between title 0 1
    let index ← (arguments[0]?.map wordArgument).getD (pure (-1))
    if items.isEmpty then throw .emptyList
    match itemAt? items index with
    | none => throw .popRange
    | some item =>
      let index := (if index < 0 then index + items.length else index).toNat
      replace place (.list (items.eraseIdx index))
      return item
  | "remove" =>
    match ← firstIndex? (← passed.single title) 0 items with
    | none => throw .notToRemove
    | some index =>
      replace place (.list (items.eraseIdx index))
      return .nothing
  | "reverse" =>
    passed.nothing title
    replace place (.list items.reverse)
    return .nothing
  | "sort" =>
    let arguments ← passed.arguments title ["key", "reverse"] 0 0
    let descending ← ((Passed.pick arguments 1).map wordArgument).getD (pure 0)
    sort machine place ((Passed.pick arguments 0).getD .nothing) (descending != 0)
    return .nothing
  | _ => throw (.noAttribute "list" word)

end SequenceMethod

end Workbench.Formula
