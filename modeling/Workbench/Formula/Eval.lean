import Workbench.Formula.Call

/-! The value of a formula. -/

set_option autoImplicit false

namespace Workbench.Formula

open Text (Codes)

/-- The value of a name in the frames around a formula. A name that one of them has as its own is not
looked for further out; `unset` says that it has no value there. -/
def lookupInFrames (unset : String → Fault) (word : String) : Scope → Eval Value
  | [] => do
    match lookup? word (← get).shared with
    | some value => return value
    | none => throw (.undefined word)
  | frame :: outer => do
    if frame.names.contains word then
      match lookup? word (← frameAt frame.place) with
      | some value => return value
      | none => throw (unset word)
    else lookupInFrames .unsetOuter word outer

/-- The value of a name. Functions and comprehensions do not see the names of the outermost level. -/
def lookupName (word : String) (scope : Scope) : Eval Value := do
  match scope, lookup? word (← get).named with
  | [], some value => return value
  | scope, _ => lookupInFrames .unsetLocal word scope

def bindName (word : String) (value : Value) (scope : Scope) : Eval Unit :=
  match scope, scope.find? fun frame => !frame.comprehension with
  | _, some frame => assignIn frame word value
  | [], none => modify fun world => { world with named := assigned word value world.named }
  | _, none => modify fun world =>
    { world with
      shared := assigned word value world.shared
      named :=
        if (lookup? word world.named).isSome then assigned word value world.named else world.named }

def titleHere (scope : Scope) : String := (scope.head?.map Frame.title).getD ""

def Collection.title : Collection → String
  | list => "<listcomp>"
  | set => "<setcomp>"
  | mapping => "<dictcomp>"
  | generator => "<genexpr>"

def Items.toList : Items → List Formula
  | .none => []
  | .item first rest | .spread first rest => first :: rest.toList

def Clauses.toList : Clauses → List Clause
  | .none => []
  | .clause target source conditions rest => ⟨target, source, conditions.toList⟩ :: rest.toList

mutual

def isConstant : Formula → Bool
  | literal _ => true
  | signed _ operand | not operand => isConstant operand
  | binary _ left right => isConstant left && isConstant right
  | tuple items => items.allConstant
  | _ => false

def Items.allConstant : Items → Bool
  | .none => true
  | .item first rest => isConstant first && rest.allConstant
  | .spread .. => false

end

def addEntries (more entries : List (Value × Value)) : Except Fault (List (Value × Value)) := do
  more.forM fun (key, _) => requireKey key
  return CollectionMethod.putAll entries more

def Inputs.singles : Inputs → Nat
  | .none => 0
  | .item _ rest => rest.singles + 1
  | .spread _ rest | .named _ _ rest | .spreadNamed _ rest => rest.singles

def Inputs.spreads : Inputs → Nat
  | .none => 0
  | .spread _ rest => rest.spreads + 1
  | .item _ rest | .named _ _ rest | .spreadNamed _ rest => rest.spreads

/-- Whether a sequence that is spread makes all arguments that are passed by position. -/
def Inputs.spreadsOnly (inputs : Inputs) : Bool := inputs.singles == 0 && inputs.spreads == 1

def addNamed (callee : Value) (word : String) (value : Value) (named : List (String × Value)) :
    Eval (List (String × Value)) := do
  if (lookup? word named).isSome then throw (.namedTwice (← calleeText callee) word)
  return named ++ [(word, value)]

def nameEntries (callee : Value) :
    List (Value × Value) → List (String × Value) → Eval (List (String × Value))
  | [], named => pure named
  | (.text codes, value) :: rest, named => do
    nameEntries callee rest (← addNamed callee (String.ofList (codes.map Char.ofNat)) value named)
  | _ :: _, _ => throw .namesNotTexts

def spreadNamed (callee value : Value) (named : List (String × Value)) :
    Eval (List (String × Value)) := do
  match value with
  | .mapping place => nameEntries callee (← mappingAt place) named
  | value => throw (.notMappingIn (← calleeText callee) value.typeName)

def spreadInto (machine : Machine) (callee value : Value) : Eval (List Value) := do
  let text ← calleeText callee
  itemsOf machine (.notSpreadableIn text) value

def collect (machine : Machine) (collection : Collection) (place : Nat) : Eval Value :=
  match collection with
  | .generator => pure (.generator place)
  | .list => do newList (← drain (next machine stepLimit (.generator place)))
  | .set => do
    newSet (.ofList (← drain (checked fun value => requireKey value)))
  | .mapping => do
    let pairs ← drain (checked fun value =>
      match value with
      | .tuple (key :: _) => requireKey key
      | _ => pure ())
    newMapping (pairs.foldl (fun entries pair =>
      match pair with
      | .tuple [key, value] => putEntry key value entries
      | _ => entries) [])
where
  checked (check : Value → Except Fault Unit) : Eval (Option Value) := do
    let item ← next machine stepLimit (.generator place)
    item.forM fun value => check value
    return item

mutual

/-- Sides are evaluated from left to right; a conjunction or disjunction leaves out what follows the side
that decides, and a choice the side that is not chosen. -/
def eval (machine : Machine) (scope : Scope) : Formula → Eval Value
  | literal value => pure value.value
  | name word => lookupName word scope
  | tuple items => return .tuple (← evalItems machine scope items)
  | list items => do newList (← evalItems machine scope items)
  | set items => do
    let members ← evalMembers machine scope {} [] false items
    newSet (if items.allConstant && 2 < items.toList.length then Members.merge {} members else members)
  | mapping entries => do newMapping (← evalEntries machine scope [] [] entries)
  | template parts => return .text (← evalParts machine scope parts)
  | signed sign operand => do applySign sign (← eval machine scope operand)
  | binary operator left right => do
    let x ← eval machine scope left
    let y ← eval machine scope right
    compute operator x y
  | chain first links => do evalLinks machine scope (← eval machine scope first) links
  | not operand => return .truth !(← isTrue (← eval machine scope operand))
  | all operands => evalUntil machine scope false operands
  | any operands => evalUntil machine scope true operands
  | choice condition yes no => do
    if ← isTrue (← eval machine scope condition) then eval machine scope yes else eval machine scope no
  | call target inputs => do
    let callee ← eval machine scope target
    let positional ← evalPositional machine scope inputs.spreadsOnly inputs
    let named ← evalNamed machine scope callee [] inputs
    let positional ← match inputs.spreadsOnly, positional with
      | true, value :: _ => spreadInto machine callee value
      | _, positional => pure positional
    machine.apply callee ⟨positional, named⟩
  | field owner word => do fieldOf (← eval machine scope owner) word
  | subscript owner index => do
    let owner ← eval machine scope owner
    subscriptOf owner (← eval machine scope index)
  | slice start stop step => do
    let start ← eval machine scope start
    let stop ← eval machine scope stop
    return .slice start stop (← eval machine scope step)
  | bind word value => do
    let value ← eval machine scope value
    bindName word value scope
    return value
  | function parameters body => do
    let signature ← evalParameters machine scope parameters
    return .function (← allocate (.function ⟨titleHere scope ++ "<lambda>", signature, body, scope⟩))
  | comprehension collection element clauses => do
    let source ← evalSource machine scope clauses
    let iterator ← iteratorOf .notIterable source
    let frame : Frame :=
      ⟨clauses.names, ← allocate (.frame []), true, titleHere scope ++ collection.title ++ "."⟩
    let place ← allocate (.generator ⟨frame :: scope, element, clauses.toList, [iterator]⟩)
    collect machine collection place

def evalItems (machine : Machine) (scope : Scope) : Items → Eval (List Value)
  | .none => pure []
  | .item first rest => do
    let value ← eval machine scope first
    return value :: (← evalItems machine scope rest)
  | .spread first rest => do
    let values ← itemsOf machine .notSpreadable (← eval machine scope first)
    return values ++ (← evalItems machine scope rest)

/-- The members of a set, after those before them. Items are kept waiting until one is spread or all have
been evaluated, but once one has been spread they are added at once. -/
def evalMembers (machine : Machine) (scope : Scope) (members : Members) (waiting : List Value)
    (spreading : Bool) : Items → Eval Members
  | .none => addKeys waiting members
  | .item first rest => do
    let value ← eval machine scope first
    if spreading then
      evalMembers machine scope (← addKeys [value] members) [] true rest
    else evalMembers machine scope members (waiting ++ [value]) false rest
  | .spread first rest => do
    let members ← addKeys waiting members
    let value ← eval machine scope first
    evalMembers machine scope (← CollectionMethod.unitedWith machine members [value]) [] true rest

/-- The entries of a mapping, after those before them. Entries are kept waiting until a mapping is spread
or all have been evaluated. -/
def evalEntries (machine : Machine) (scope : Scope) (before waiting : List (Value × Value)) :
    Entries → Eval (List (Value × Value))
  | .none => addEntries waiting before
  | .entry key value rest => do
    let key ← eval machine scope key
    let value ← eval machine scope value
    evalEntries machine scope before (waiting ++ [(key, value)]) rest
  | .spread first rest => do
    let before ← addEntries waiting before
    match ← eval machine scope first with
    | .mapping place =>
      evalEntries machine scope (CollectionMethod.putAll before (← mappingAt place)) [] rest
    | value => throw (.notMapping value.typeName)

def evalParts (machine : Machine) (scope : Scope) : Parts → Eval Codes
  | .none => pure []
  | .text codes rest => return codes ++ (← evalParts machine scope rest)
  | .place value conversion format rest => do
    let value ← eval machine scope value
    let description ← evalParts machine scope format
    let value ← match conversion with
      | some conversion => do pure (Value.text (← converted conversion value))
      | none => pure value
    let filled ← laidOut value description
    return filled ++ (← evalParts machine scope rest)

def evalLinks (machine : Machine) (scope : Scope) (left : Value) : Links → Eval Value
  | .last comparison right => do
    compareValues machine comparison left (← eval machine scope right)
  | .more comparison right rest => do
    let right ← eval machine scope right
    let outcome ← compareValues machine comparison left right
    if ← isTrue outcome then evalLinks machine scope right rest else return outcome

def evalUntil (machine : Machine) (scope : Scope) (decides : Bool) : Items → Eval Value
  | .none => pure (.truth !decides)
  | .item first .none | .spread first .none => eval machine scope first
  | .item first rest | .spread first rest => do
    let value ← eval machine scope first
    if (← isTrue value) == decides then return value else evalUntil machine scope decides rest

/-- The arguments that are passed by position. If one sequence makes them all, its items are not asked
for yet. -/
def evalPositional (machine : Machine) (scope : Scope) (whole : Bool) : Inputs → Eval (List Value)
  | .none => pure []
  | .item first rest => do
    let value ← eval machine scope first
    return value :: (← evalPositional machine scope whole rest)
  | .spread first rest => do
    let value ← eval machine scope first
    let values ← if whole then pure [value] else itemsOf machine .notSpreadable value
    return values ++ (← evalPositional machine scope whole rest)
  | .named _ _ rest | .spreadNamed _ rest => evalPositional machine scope whole rest

def evalNamed (machine : Machine) (scope : Scope) (callee : Value) (before : List (String × Value)) :
    Inputs → Eval (List (String × Value))
  | .none => pure before
  | .item _ rest | .spread _ rest => evalNamed machine scope callee before rest
  | .named word first rest => do
    let value ← eval machine scope first
    evalNamed machine scope callee (← addNamed callee word value before) rest
  | .spreadNamed first rest => do
    let value ← eval machine scope first
    evalNamed machine scope callee (← spreadNamed callee value before) rest

def evalParameters (machine : Machine) (scope : Scope) : Parameters → Eval Signature
  | .none => pure {}
  | .required passing word rest => do
    let signature ← evalParameters machine scope rest
    return { signature with parameters := ⟨passing, word, none⟩ :: signature.parameters }
  | .optional passing word fallback rest => do
    let value ← eval machine scope fallback
    let signature ← evalParameters machine scope rest
    return { signature with parameters := ⟨passing, word, some value⟩ :: signature.parameters }
  | .others word rest => return { ← evalParameters machine scope rest with others := some word }
  | .othersNamed word rest => return { ← evalParameters machine scope rest with othersNamed := some word }

def evalSource (machine : Machine) (scope : Scope) : Clauses → Eval Value
  | .none => pure (.tuple [])
  | .clause _ source _ _ => eval machine scope source

end

def Machine.within : Nat → Machine
  | 0 => ⟨fun _ _ => throw .tooManyCalls, fun _ _ => throw .tooManyCalls⟩
  | calls + 1 =>
    let machine := Machine.within calls
    ⟨eval machine, applyValue (eval machine) machine⟩

def Limits.standard : Limits where
  nesting := some 200
  reading := some 6000
  height := some 2976
  calls := 991

def evaluateWithin (limits : Limits) (world : World) (text : String) : Except Fault Number := do
  if text.toList.contains '\x00' then throw .nullCharacter
  let formula ← checkedOfText limits text.toList
  let (value, _) ← (eval (.within limits.calls) [] formula).run world
  toNumber value

end Workbench.Formula
