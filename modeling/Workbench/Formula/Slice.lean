import Workbench.Formula.Written

/-! Items of values by index, by bounds and by key. -/

set_option autoImplicit false

namespace Workbench.Formula

def itemAt? {α : Type} (items : List α) (index : Int) : Option α :=
  let index := if index < 0 then index + items.length else index
  if index < 0 then none else items[index.toNat]?

def toIndex (fault : Fault) (index : Value) : Except Fault Int :=
  match index.integer? with
  | none => throw fault
  | some n => if fitsWord n then pure n else throw .indexTooLarge

def boundOf : Value → Except Fault (Option Int)
  | .nothing => pure none
  | value =>
    match value.integer? with
    | some n => pure (some n)
    | none => throw .sliceBound

def clamp (length : Nat) (low high : Int) (bound : Int) : Int :=
  let bound := if bound < 0 then bound + length else bound
  max low (min high bound)

/-- The indices from a start, exclusively up to a stop, at a distance that is not zero. -/
def steps (start stop step : Int) : List Nat :=
  let count :=
    if 0 < step then (stop - start + step - 1) / step else (start - stop - step - 1) / (-step)
  (List.range count.toNat).map fun (i : Nat) => (start + i * step).toNat

def sliceIndices (length : Nat) (start stop step : Value) : Except Fault (List Nat) := do
  let step := (← boundOf step).getD 1
  if step == 0 then throw .zeroStep
  let start ← boundOf start
  let stop ← boundOf stop
  if 0 < step then
    return steps ((start.map (clamp length 0 length)).getD 0)
      ((stop.map (clamp length 0 length)).getD length) step
  else
    return steps ((start.map (clamp length (-1) (length - 1))).getD (length - 1))
      ((stop.map (clamp length (-1) (length - 1))).getD (-1)) step

def sliceOf {α : Type} (items : List α) (start stop step : Value) : Except Fault (List α) := do
  let indices ← sliceIndices items.length start stop step
  let array := items.toArray
  return indices.filterMap fun i => array[i]?

def subscriptOf (owner index : Value) : Eval Value :=
  match owner, index with
  | .text codes, .slice start stop step => return .text (← sliceOf codes start stop step)
  | .bytes codes, .slice start stop step => return .bytes (← sliceOf codes start stop step)
  | .tuple items, .slice start stop step => return .tuple (← sliceOf items start stop step)
  | .list place, .slice start stop step => do newList (← sliceOf (← listAt place) start stop step)
  | .text codes, index => do
    let position ← toIndex (.textIndex index.typeName) index
    (itemAt? codes position).elim (throw .textIndexRange) fun code => pure (.text [code])
  | .bytes codes, index => do
    let position ← toIndex (.bytesIndex index.typeName) index
    (itemAt? codes position).elim (throw .bytesIndexRange) fun code => pure (.int code)
  | .tuple items, index => do
    let position ← toIndex (.sequenceIndex "tuple" index.typeName) index
    (itemAt? items position).elim (throw (.sequenceIndexRange "tuple")) pure
  | .list place, index => do
    let position ← toIndex (.sequenceIndex "list" index.typeName) index
    (itemAt? (← listAt place) position).elim (throw (.sequenceIndexRange "list")) pure
  | .mapping place, key => do
    requireKey key
    match entryOf? key (← mappingAt place) with
    | some value => return value
    | none => missingKey key
  | .type word, _ => throw (.typeNotSubscriptable word)
  | owner, _ => throw (.notSubscriptable owner.typeName)

def assignItem (owner index value : Value) : Eval Unit :=
  match owner with
  | .list place => do
    let items ← listAt place
    let position ← toIndex (.sequenceIndex "list" index.typeName) index
    let position := if position < 0 then position + items.length else position
    if position < 0 || (items.length : Int) ≤ position then throw .assignmentRange
    replace place (.list (items.set position.toNat value))
  | .mapping place => do
    requireKey index
    replace place (.mapping (putEntry index value (← mappingAt place)))
  | owner => throw (.notAssignable owner.typeName)

end Workbench.Formula
