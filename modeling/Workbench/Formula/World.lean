import Workbench.Formula.Value

/-! What formulas can change while they are evaluated: lists, sets and mappings, the variables of
functions, and how far iterators have come. Each is an object with a place of its own, and values refer
to it by that place. -/

set_option autoImplicit false

namespace Workbench.Formula

/-- The variables of a function or comprehension that is being evaluated: the names that are its own,
and where their values are. -/
structure Frame where
  names : List String
  place : Nat
  /-- Names given inside a comprehension belong to what is around it. -/
  comprehension : Bool
  /-- What the titles of functions written inside start with. -/
  title : String

abbrev Scope := List Frame

structure Parameter where
  passing : Passing
  word : String
  fallback : Option Value

structure Signature where
  parameters : List Parameter := []
  others : Option String := none
  othersNamed : Option String := none

structure Function where
  title : String
  signature : Signature
  body : Formula
  scope : Scope

structure Clause where
  target : Target
  source : Formula
  conditions : List Formula

/-- A comprehension whose items are asked for one at a time, with the iterators of the clauses that
have been entered, the innermost first; when none is left it has ended. -/
structure Generator where
  scope : Scope
  element : Formula
  clauses : List Clause
  active : List Value

/-- How far an iterator has come. A list may grow on the way; a set or mapping may not. -/
inductive Cursor where
  | items (rest : List Value)
  | list (place index : Nat)
  | reversedList (place count : Nat)
  | set (place size : Nat) (rest : List Value)
  | mapping (place size : Nat) (rest : List Value)

/-- The members of a set by the slots they are kept in; `filled` counts the slots that were ever
used. -/
structure Members where
  slots : List (Option Value) := List.replicate 8 none
  filled : Nat := 0

def Members.toList (members : Members) : List Value := members.slots.filterMap id

inductive Object where
  | list (items : List Value)
  | set (members : Members)
  | mapping (entries : List (Value × Value))
  | frame (bound : List (String × Value))
  | function (definition : Function)
  | generator (state : Generator)
  | cursor (cursor : Cursor)
  | parts (parts : List (String × Value))

structure World where
  objects : Array Object := #[]
  /-- Names given at the outermost level. -/
  named : List (String × Value) := []
  /-- Names given by comprehensions at the outermost level, which are known everywhere. -/
  shared : List (String × Value) := []

/-- An evaluation: it may change the world, or fail. -/
abbrev Eval := StateT World (Except Fault)

def allocate (object : Object) : Eval Nat := fun world =>
  pure (world.objects.size, { world with objects := world.objects.push object })

def replace (place : Nat) (object : Object) : Eval Unit :=
  modify fun world => { world with objects := world.objects.setIfInBounds place object }

def objectAt? (place : Nat) : Eval (Option Object) := do
  return (← get).objects[place]?

def listAt (place : Nat) : Eval (List Value) := do
  match ← objectAt? place with
  | some (.list items) => return items
  | _ => return []

def setAt (place : Nat) : Eval Members := do
  match ← objectAt? place with
  | some (.set members) => return members
  | _ => return {}

def mappingAt (place : Nat) : Eval (List (Value × Value)) := do
  match ← objectAt? place with
  | some (.mapping entries) => return entries
  | _ => return []

def frameAt (place : Nat) : Eval (List (String × Value)) := do
  match ← objectAt? place with
  | some (.frame bound) => return bound
  | _ => return []

def partsAt (place : Nat) : Eval (List (String × Value)) := do
  match ← objectAt? place with
  | some (.parts parts) => return parts
  | _ => return []

def newList (items : List Value) : Eval Value := return .list (← allocate (.list items))

def newMapping (entries : List (Value × Value)) : Eval Value :=
  return .mapping (← allocate (.mapping entries))

def newIterator (word : String) (cursor : Cursor) : Eval Value :=
  return .iterator word (← allocate (.cursor cursor))

/-- Whether a value counts as true: numbers other than zero, and whatever is not empty. -/
def isTrue : Value → Eval Bool
  | .int n => pure (n != 0)
  | .float x => pure (x != 0.0)
  | .truth b => pure b
  | .text content | .bytes content => pure !content.isEmpty
  | .tuple items => pure !items.isEmpty
  | .nothing => pure false
  | .complex z => pure !z.isZero
  | .list place => return !(← listAt place).isEmpty
  | .set place => return !(← setAt place).toList.isEmpty
  | .mapping place | .view _ place => return !(← mappingAt place).isEmpty
  | _ => pure true

def lookup? (word : String) (bound : List (String × Value)) : Option Value :=
  (bound.find? fun entry => entry.1 == word).map Prod.snd

def assigned (word : String) (value : Value) : List (String × Value) → List (String × Value)
  | [] => [(word, value)]
  | (other, old) :: rest =>
    if other == word then (word, value) :: rest else (other, old) :: assigned word value rest

end Workbench.Formula
