import Workbench.Formula.Passed
import Workbench.Formula.Scoping
import Workbench.Formula.Slice

/-! Going through the items of values, and the names that items are given on the way. -/

set_option autoImplicit false

namespace Workbench.Formula

/-- How formulas that stand elsewhere are evaluated and values are called. Both count against the number
of functions that may be under way. -/
structure Machine where
  run : Scope → Formula → Eval Value
  apply : Value → Passed → Eval Value

def stepLimit : Nat := 10000000

def assignIn (frame : Frame) (word : String) (value : Value) : Eval Unit := do
  replace frame.place (.frame (assigned word value (← frameAt frame.place)))

def View.items (view : View) (entries : List (Value × Value)) : List Value :=
  entries.map fun (key, value) =>
    match view with
    | .keys => key
    | .values => value
    | .entries => .tuple [key, value]

def View.iteratorName : View → String
  | .keys => "dict_keyiterator"
  | .values => "dict_valueiterator"
  | .entries => "dict_itemiterator"

def characters (codes : Text.Codes) : List Value := codes.map fun code => .text [code]

def byteValues (codes : Text.Codes) : List Value := codes.map fun (code : Nat) => .int code

def iteratorOf (fault : String → Fault) : Value → Eval Value
  | .tuple items => newIterator "tuple_iterator" (.items items)
  | .text codes =>
    newIterator (if codes.all (· < 0x80) then "str_ascii_iterator" else "str_iterator")
      (.items (characters codes))
  | .bytes codes => newIterator "bytes_iterator" (.items (byteValues codes))
  | .list place => newIterator "list_iterator" (.list place 0)
  | .set place => do
    let items := (← setAt place).toList
    newIterator "set_iterator" (.set place items.length items)
  | .mapping place => do
    let entries ← mappingAt place
    newIterator "dict_keyiterator" (.mapping place entries.length (entries.map Prod.fst))
  | .view view place => do
    let entries ← mappingAt place
    newIterator view.iteratorName (.mapping place entries.length (view.items entries))
  | .iterator word place => pure (.iterator word place)
  | .generator place => pure (.generator place)
  | value => throw (fault value.typeName)

/-- The next item of an iterator that is no generator. What it goes through may not change its size,
unless it is a list. -/
def advance (place : Nat) : Cursor → Eval (Option Value)
  | .items [] => pure none
  | .items (item :: rest) => do
    replace place (.cursor (.items rest))
    return some item
  | .list source index => do
    match (← listAt source)[index]? with
    | none =>
      replace place (.cursor (.items []))
      return none
    | some item =>
      replace place (.cursor (.list source (index + 1)))
      return some item
  | .reversedList source count => do
    match count, (← listAt source)[count - 1]? with
    | count + 1, some item =>
      replace place (.cursor (.reversedList source count))
      return some item
    | _, _ =>
      replace place (.cursor (.items []))
      return none
  | .set source size rest => do
    if (← setAt source).toList.length != size then throw .setChanged
    match rest with
    | [] => return none
    | item :: rest =>
      replace place (.cursor (.set source size rest))
      return some item
  | .mapping source size rest => do
    if (← mappingAt source).length != size then throw .mappingChanged
    match rest with
    | [] => return none
    | item :: rest =>
      replace place (.cursor (.mapping source size rest))
      return some item

def drainOnto (next : Eval (Option Value)) : Nat → List Value → Eval (List Value)
  | 0, _ => throw .outOfMemory
  | fuel + 1, collected => do
    match ← next with
    | none => return collected.reverse
    | some item => drainOnto next fuel (item :: collected)

def drain (next : Eval (Option Value)) : Eval (List Value) := drainOnto next stepLimit []

def allHold (machine : Machine) (scope : Scope) : List Formula → Eval Bool
  | [] => pure true
  | condition :: rest => do
    if ← isTrue (← machine.run scope condition) then allHold machine scope rest else return false

/-- The shares of targets in items, one of which may take several: those before it, its own, and those
after it. -/
def shares (targets : Targets) (items : List Value) : Except Fault (List Value × List Value × List Value) :=
  let before := countBefore targets
  let after := countAfter targets
  match targets.severals with
  | 0 =>
    if items.length < before then throw (.tooFewItems before items.length)
    else if before < items.length then throw (.tooManyItems before)
    else pure (items, [], [])
  | _ =>
    if items.length < before + after then throw (.tooFewItemsFor (before + after) items.length)
    else
      let middle := items.length - before - after
      pure (items.take before, (items.drop before).take middle, items.drop (before + middle))
where
  countBefore : Targets → Nat
    | .none => 0
    | .item _ rest => countBefore rest + 1
    | .several .. => 0
  countAfter : Targets → Nat
    | .none => 0
    | .item _ rest => countAfter rest
    | .several _ rest => countBefore rest

mutual

/-- The next item of an iterator. A generator goes on where it stopped; `fuel` bounds its steps. -/
def next (machine : Machine) : Nat → Value → Eval (Option Value)
  | 0, _ => throw .outOfMemory
  | fuel + 1, value =>
    match value with
    | .iterator _ place => do
      match ← objectAt? place with
      | some (.cursor cursor) => advance place cursor
      | _ => return none
    | .generator place => do
      match ← objectAt? place with
      | some (.generator state) => resume machine fuel place state
      | _ => return none
    | value => throw (.notIterator value.typeName)

/-- Goes on with a generator: the innermost clause that has an item left gives it, and the clauses
inside start anew. -/
def resume (machine : Machine) : Nat → Nat → Generator → Eval (Option Value)
  | 0, _, _ => throw .outOfMemory
  | fuel + 1, place, state =>
    match state.active with
    | [] => pure none
    | iterator :: outer => do
      match state.clauses[outer.length]? with
      | none => return none
      | some clause =>
        match ← next machine fuel iterator with
        | none =>
          let state := { state with active := outer }
          replace place (.generator state)
          resume machine fuel place state
        | some item =>
          assign machine fuel state.scope clause.target item
          if ← allHold machine state.scope clause.conditions then
            match state.clauses[outer.length + 1]? with
            | none => return some (← machine.run state.scope state.element)
            | some inner =>
              let source ← machine.run state.scope inner.source
              let iterator ← iteratorOf .notIterable source
              let state := { state with active := iterator :: state.active }
              replace place (.generator state)
              resume machine fuel place state
          else resume machine fuel place state

def assign (machine : Machine) : Nat → Scope → Target → Value → Eval Unit
  | 0, _, _, _ => throw .outOfMemory
  | fuel + 1, scope, target, value =>
    match target with
    | .name word =>
      match scope with
      | [] => pure ()
      | frame :: _ => assignIn frame word value
    | .field owner word => do
      throw (.noFieldAssignment (← machine.run scope owner).typeName word)
    | .subscript owner index => do
      let owner ← machine.run scope owner
      assignItem owner (← machine.run scope index) value
    | .items targets => do
      let iterator ← iteratorOf .notUnpackable value
      let items ← drain (next machine fuel iterator)
      let (before, several, after) ← shares targets items
      assignAll machine fuel scope targets before several after

def assignAll (machine : Machine) :
    Nat → Scope → Targets → List Value → List Value → List Value → Eval Unit
  | 0, _, _, _, _, _ => throw .outOfMemory
  | fuel + 1, scope, targets, before, several, after =>
    match targets, before with
    | .item first rest, item :: before => do
      assign machine fuel scope first item
      assignAll machine fuel scope rest before several after
    | .several first rest, _ => do
      assign machine fuel scope first (← newList several)
      assignAll machine fuel scope rest after [] []
    | _, _ => pure ()

end

def itemsOf (machine : Machine) (fault : String → Fault) : Value → Eval (List Value)
  | .tuple items => pure items
  | .list place => listAt place
  | .text codes => pure (characters codes)
  | .bytes codes => pure (byteValues codes)
  | .set place => return (← setAt place).toList
  | .mapping place => return (← mappingAt place).map Prod.fst
  | .view view place => return view.items (← mappingAt place)
  | value => do
    let iterator ← iteratorOf fault value
    drain (next machine stepLimit iterator)

/-- Whether an iterator gives a value; it stops there. `fuel` bounds the number of items. -/
def gives (machine : Machine) (iterator x : Value) : Nat → Eval Bool
  | 0 => throw .outOfMemory
  | fuel + 1 => do
    match ← next machine stepLimit iterator with
    | none => return false
    | some item => if ← equals item x then return true else gives machine iterator x fuel

def member (machine : Machine) (x : Value) : Value → Eval Bool
  | .text whole =>
    match x with
    | .text part => pure (occursIn part whole)
    | x => throw (.textMember x.typeName)
  | .bytes whole =>
    match x, x.integer? with
    | .bytes part, _ => pure (occursIn part whole)
    | _, some n =>
      if n < 0 || 255 < n then throw .byteRange else pure (whole.contains n.toNat)
    | x, none => throw (.bytesMember x.typeName)
  | .tuple items => anyEquals x items
  | .list place => do anyEquals x (← listAt place)
  | .set place => do
    match x with
    | .set _ => return false
    | x =>
      requireKey x
      return (← setAt place).contains x
  | .mapping place | .view .keys place => do
    requireKey x
    return (entryOf? x (← mappingAt place)).isSome
  | .view view place => do anyEquals x (view.items (← mappingAt place))
  | value => do
    let iterator ← iteratorOf .notContainer value
    gives machine iterator x stepLimit

def compareValues (machine : Machine) (comparison : Comparison) (x y : Value) : Eval Value :=
  match comparison with
  | .eq => return .truth (← equals x y)
  | .ne => return .truth !(← equals x y)
  | .isIn => return .truth (← member machine x y)
  | .notIn => return .truth !(← member machine x y)
  | .being => pure (.truth (x.identical y))
  | .notBeing => pure (.truth !(x.identical y))
  | comparison => return .truth (← comparison.decide comparisonDepth x y)

end Workbench.Formula
