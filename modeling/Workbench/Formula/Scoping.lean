import Workbench.Formula.Parser

/-! What a formula says about names, and how high its tree is. A name that is given on the way belongs to
the function around it, or to the outermost level, also when it is given inside a comprehension; but a
comprehension keeps the names of its own items, and gives none where its items come from. -/

set_option autoImplicit false

namespace Workbench.Formula

mutual

def Target.names : Target → List String
  | .name word => [word]
  | .items targets => targets.names
  | .field .. | .subscript .. => []

def Targets.names : Targets → List String
  | .none => []
  | .item first rest | .several first rest => first.names ++ rest.names

end

def Clauses.names : Clauses → List String
  | .none => []
  | .clause target _ _ rest => target.names ++ rest.names

def Parameters.names : Parameters → List String
  | .none => []
  | .required _ word rest | .optional _ word _ rest | .others word rest | .othersNamed word rest =>
    word :: rest.names

/-- What is around a formula: the names of the items of comprehensions, and whether it tells where the
items of one come from. -/
structure Surroundings where
  items : List String := []
  source : Bool := false

def together (parts : List (Option (List String))) : Option (List String) :=
  parts.foldr (fun part rest => part.bind fun names => rest.map (names ++ ·)) (some [])

def allowedName (surroundings : Surroundings) (word : String) : Bool :=
  !surroundings.source && !surroundings.items.contains word && word != "__debug__"

mutual

/-- The names that a formula gives on the way; none if a name is given where it may not be, or twice in
one call. -/
def given? (around : Surroundings) : Formula → Option (List String)
  | .literal _ | .name _ => some []
  | .tuple items | .list items | .set items | .all items | .any items => items.given? around
  | .mapping entries => entries.given? around
  | .template parts => parts.given? around
  | .signed _ operand | .not operand | .field operand _ => given? around operand
  | .binary _ left right | .subscript left right => together [given? around left, given? around right]
  | .chain first links => together [given? around first, links.given? around]
  | .choice condition yes no | .slice condition yes no =>
    together [given? around condition, given? around yes, given? around no]
  | .call target inputs => together [given? around target, inputs.given? around []]
  | .bind word value =>
    if allowedName around word then (given? around value).map (word :: ·) else Option.none
  | .function parameters body =>
    match given? { source := around.source } body with
    | some _ => parameters.given? around
    | Option.none => Option.none
  | .comprehension _ element clauses =>
    let inner : Surroundings := { around with items := clauses.names ++ around.items }
    together [clauses.given? around inner, given? inner element]

def Items.given? (around : Surroundings) : Items → Option (List String)
  | .none => some []
  | .item first rest | .spread first rest =>
    together [Formula.given? around first, rest.given? around]

def Entries.given? (around : Surroundings) : Entries → Option (List String)
  | .none => some []
  | .entry key value rest =>
    together [Formula.given? around key, Formula.given? around value, rest.given? around]
  | .spread first rest => together [Formula.given? around first, rest.given? around]

def Parts.given? (around : Surroundings) : Parts → Option (List String)
  | .none => some []
  | .text _ rest => rest.given? around
  | .place value _ format rest =>
    together [Formula.given? around value, format.given? around, rest.given? around]

def Links.given? (around : Surroundings) : Links → Option (List String)
  | .last _ right => Formula.given? around right
  | .more _ right rest => together [Formula.given? around right, rest.given? around]

def Inputs.given? (around : Surroundings) : Inputs → List String → Option (List String)
  | .none, _ => some []
  | .item first rest, seen | .spread first rest, seen | .spreadNamed first rest, seen =>
    together [Formula.given? around first, rest.given? around seen]
  | .named word first rest, seen =>
    if seen.contains word || word == "__debug__" then Option.none
    else together [Formula.given? around first, rest.given? around (word :: seen)]

/-- Fallbacks are evaluated where the function is written. -/
def Parameters.given? (around : Surroundings) : Parameters → Option (List String)
  | .none => some []
  | .required _ _ rest | .others _ rest | .othersNamed _ rest => rest.given? around
  | .optional _ _ fallback rest => together [Formula.given? around fallback, rest.given? around]

/-- The first source is evaluated outside of the comprehension, everything else inside. -/
def Clauses.given? (outer inner : Surroundings) : Clauses → Option (List String)
  | .none => some []
  | .clause target source conditions rest =>
    together
      [Formula.given? { outer with source := true } source, target.given? inner,
       conditions.given? inner, rest.given? inner inner]

def Target.given? (around : Surroundings) : Target → Option (List String)
  | .name word => if word == "__debug__" then Option.none else some []
  | .items targets => if 1 < targets.severals then Option.none else targets.given? around
  | .field owner _ => Formula.given? around owner
  | .subscript owner index => together [Formula.given? around owner, Formula.given? around index]

def Targets.given? (around : Surroundings) : Targets → Option (List String)
  | .none => some []
  | .item first rest | .several first rest => together [first.given? around, rest.given? around]

end

mutual

/-- The height of the tree of a formula; a chain of comparisons or conditions is one step. -/
def height : Formula → Nat
  | .literal _ | .name _ => 1
  | .tuple items | .list items | .set items | .all items | .any items => items.height + 1
  | .mapping entries => entries.height + 1
  | .template parts => parts.height + 1
  | .signed _ operand | .not operand | .field operand _ | .bind _ operand => height operand + 1
  | .binary _ left right | .subscript left right => max (height left) (height right) + 1
  | .chain first links => max (height first) links.height + 1
  | .choice condition yes no | .slice condition yes no =>
    max (height condition) (max (height yes) (height no)) + 1
  | .call target inputs => max (height target) inputs.height + 1
  | .function parameters body => max parameters.height (height body) + 1
  | .comprehension collection element clauses =>
    let element := if collection = .mapping then height element - 1 else height element
    max element clauses.height + 1

def Items.height : Items → Nat
  | .none => 0
  | .item first rest => max (Formula.height first) rest.height
  | .spread first rest => max (Formula.height first + 1) rest.height

def Entries.height : Entries → Nat
  | .none => 0
  | .entry key value rest => max (max (Formula.height key) (Formula.height value)) rest.height
  | .spread first rest => max (Formula.height first) rest.height

def Parts.height : Parts → Nat
  | .none => 0
  | .text _ rest => max 1 rest.height
  | .place value _ format rest => max (max (Formula.height value) (format.height + 1) + 1) rest.height

def Links.height : Links → Nat
  | .last _ right => Formula.height right
  | .more _ right rest => max (Formula.height right) rest.height

def Inputs.height : Inputs → Nat
  | .none => 0
  | .item first rest | .named _ first rest | .spreadNamed first rest =>
    max (Formula.height first) rest.height
  | .spread first rest => max (Formula.height first + 1) rest.height

def Parameters.height : Parameters → Nat
  | .none => 0
  | .required _ _ rest | .others _ rest | .othersNamed _ rest => rest.height
  | .optional _ _ fallback rest => max (Formula.height fallback) rest.height

def Clauses.height : Clauses → Nat
  | .none => 0
  | .clause target source conditions rest =>
    max (max target.height (Formula.height source)) (max conditions.height rest.height)

def Target.height : Target → Nat
  | .name _ => 1
  | .items targets => targets.height + 1
  | .field owner _ => Formula.height owner + 1
  | .subscript owner index => max (Formula.height owner) (Formula.height index) + 1

def Targets.height : Targets → Nat
  | .none => 0
  | .item first rest => max first.height rest.height
  | .several first rest => max (first.height + 1) rest.height

end

def checkedOfText (limits : Limits) (text : List Char) : Except Fault Formula := do
  let formula ← ofText limits text
  if !allows limits.height formula.height then throw .tooDeepToRead
  if (formula.given? {}).isNone then throw .malformed
  return formula

end Workbench.Formula
