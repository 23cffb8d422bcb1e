import Workbench.Formula.Mark

/-! How formulas are read from marks. Operators bind in levels; those of one level group to the left,
powers to the right, and a chain of comparisons holds if each of them does.

A reading goes down from level to level, and further down at every bracket and sign. How far down it is
has a limit of its own: each definition below says by `depth` how many steps lead to it, and how many
more it takes to what it reads in turn. -/

set_option autoImplicit false

namespace Workbench.Formula

/-- What formulas may not exceed; none is no limit. -/
structure Limits where
  /-- How deep brackets may nest. -/
  nesting : Option Nat
  /-- How far down a reading may go. -/
  reading : Option Nat
  /-- How high the tree of a formula may be. -/
  height : Option Nat
  /-- How many functions may be under way. -/
  calls : Nat

inductive Level where
  | choice
  | disjunction
  | conjunction
  | inversion
  | comparison
  | bitOr
  | bitXor
  | bitAnd
  | shift
  | sum
  | product
  | sign
  | power
  | primary
  deriving DecidableEq, Repr

def Level.join? (level : Level) : Mark → Option (Formula → Formula → Formula)
  | .sign "|" => if level = .bitOr then some (.binary .bitOr) else none
  | .sign "^" => if level = .bitXor then some (.binary .bitXor) else none
  | .sign "&" => if level = .bitAnd then some (.binary .bitAnd) else none
  | .sign "<<" => if level = .shift then some (.binary .shiftLeft) else none
  | .sign ">>" => if level = .shift then some (.binary .shiftRight) else none
  | .sign "+" => if level = .sum then some (.binary .add) else none
  | .sign "-" => if level = .sum then some (.binary .sub) else none
  | .sign "*" => if level = .product then some (.binary .mul) else none
  | .sign "/" => if level = .product then some (.binary .div) else none
  | .sign "//" => if level = .product then some (.binary .floorDiv) else none
  | .sign "%" => if level = .product then some (.binary .mod) else none
  | .sign "@" => if level = .product then some (.binary .matrixMul) else none
  | _ => none

def Level.tighter : Level → Level
  | choice => disjunction
  | disjunction => conjunction
  | conjunction => inversion
  | inversion => comparison
  | comparison => bitOr
  | bitOr => bitXor
  | bitXor => bitAnd
  | bitAnd => shift
  | shift => sum
  | sum => product
  | product => sign
  | sign => power
  | power => primary
  | primary => primary

def comparison? : List Mark → Option (Comparison × List Mark)
  | .sign "<" :: rest => some (.lt, rest)
  | .sign "<=" :: rest => some (.le, rest)
  | .sign ">" :: rest => some (.gt, rest)
  | .sign ">=" :: rest => some (.ge, rest)
  | .sign "==" :: rest => some (.eq, rest)
  | .sign "!=" :: rest => some (.ne, rest)
  | .word "in" :: rest => some (.isIn, rest)
  | .word "not" :: .word "in" :: rest => some (.notIn, rest)
  | .word "is" :: .word "not" :: rest => some (.notBeing, rest)
  | .word "is" :: rest => some (.being, rest)
  | _ => none

def sign? : Mark → Option Sign
  | .sign "+" => some .plus
  | .sign "-" => some .minus
  | .sign "~" => some .invert
  | _ => none

def reserved : List String :=
  ["and", "as", "assert", "async", "await", "break", "class", "continue", "def", "del", "elif",
   "else", "except", "finally", "for", "from", "global", "if", "import", "in", "is", "lambda",
   "nonlocal", "not", "or", "pass", "raise", "return", "try", "while", "with", "yield"]

def constants : List (String × Literal) :=
  [("True", .truth true), ("False", .truth false), ("None", .nothing)]

def isName (word : String) : Bool :=
  !reserved.contains word && !(constants.any fun entry => entry.1 == word)

def ofWord? (word : String) : Option Formula :=
  match constants.find? fun entry => entry.1 == word with
  | some (_, value) => some (.literal value)
  | none => if reserved.contains word then none else some (.name word)

def adjacentBytes : List Mark → Text.Codes × List Mark
  | .bytes codes :: rest =>
    let (more, after) := adjacentBytes rest
    (codes ++ more, after)
  | rest => ([], rest)

abbrev Read (α : Type) := α × List Mark

def expect (spelling : String) : List Mark → Except Fault (List Mark)
  | .sign found :: rest => if found == spelling then pure rest else throw .malformed
  | _ => throw .malformed

def startsWith (spelling : String) : List Mark → Bool
  | .sign found :: _ => found == spelling
  | _ => false

def startsWithWord (word : String) : List Mark → Bool
  | .word found :: _ => found == word
  | _ => false

/-- One item without a comma after it is itself; several items, or one with a comma, are a tuple. -/
def grouped : Items → Bool → Except Fault Formula
  | .item first .none, false => pure first
  | .spread .., false => throw .malformed
  | items, _ => pure (.tuple items)

mutual

def Target.ofFormula? : Formula → Option Target
  | .name word => some (.name word)
  | .field owner word => some (.field owner word)
  | .subscript owner index => some (.subscript owner index)
  | .tuple items | .list items => (Targets.ofItems? items).map .items
  | _ => none

def Targets.ofItems? : Items → Option Targets
  | .none => some .none
  | .item first rest => do some (.item (← Target.ofFormula? first) (← Targets.ofItems? rest))
  | .spread first rest => do some (.several (← Target.ofFormula? first) (← Targets.ofItems? rest))

end

def Targets.severals : Targets → Nat
  | .none => 0
  | .item _ rest => rest.severals
  | .several _ rest => rest.severals + 1

structure ParameterState where
  names : List String := []
  /-- Parameters with a fallback have begun. -/
  optional : Bool := false
  /-- From here on arguments come by name. -/
  named : Bool := false
  /-- A bare star wants a name after it. -/
  pending : Bool := false
  /-- Nothing may follow. -/
  closed : Bool := false
  /-- The mark before which arguments come by position only may follow. -/
  divisible : Bool := false

def Parts.append : Parts → Parts → Parts
  | .none, rest => rest
  | .text codes first, rest => .text codes (first.append rest)
  | .place value conversion format first, rest => .place value conversion format (first.append rest)

def Parts.plain? : Parts → Option Text.Codes
  | .none => some []
  | .text codes rest => rest.plain?.map (codes ++ ·)
  | .place .. => Option.none

/-- What arguments may follow in a call. -/
inductive InputPhase where
  | positions
  | names
  | mappings
  deriving DecidableEq, Repr

def requireSome {α : Type} : Option α → Except Fault α
  | some value => pure value
  | none => throw .malformed

def descend (limits : Limits) (depth : Nat) : Except Fault Unit :=
  if allows limits.reading depth then pure () else throw .outOfMemory

mutual

/-- A formula of a level at the head of the marks; `fuel` bounds the number of steps. -/
def read (limits : Limits) : Nat → Nat → Level → List Mark → Except Fault (Read Formula)
  | 0, _, _, _ => throw .malformed
  | fuel + 1, depth, level, marks => do
    descend limits depth
    match level with
    | .choice =>
      match marks with
      | .word "lambda" :: rest =>
        descend limits (depth + 22)
        readFunction limits fuel (depth + 1) rest
      | marks =>
        let (yes, after) ← read limits fuel (depth + 1) .disjunction marks
        match after with
        | .word "if" :: rest =>
          let (condition, after) ← read limits fuel (depth + 1) .disjunction rest
          match after with
          | .word "else" :: rest =>
            let (no, after) ← read limits fuel (depth + 1) .choice rest
            return (.choice condition yes no, after)
          | _ => throw .malformed
        | _ => return (yes, after)
    | .disjunction =>
      let (first, after) ← read limits fuel (depth + 1) .conjunction marks
      if startsWithWord "or" after then
        let (rest, after) ← readOperands limits fuel (depth + 3) "or" .conjunction after
        return (.any (.item first rest), after)
      else return (first, after)
    | .conjunction =>
      let (first, after) ← read limits fuel (depth + 1) .inversion marks
      if startsWithWord "and" after then
        let (rest, after) ← readOperands limits fuel (depth + 3) "and" .inversion after
        return (.all (.item first rest), after)
      else return (first, after)
    | .inversion =>
      match marks with
      | .word "not" :: rest =>
        let (operand, after) ← read limits fuel (depth + 1) .inversion rest
        return (.not operand, after)
      | marks => read limits fuel (depth + 1) .comparison marks
    | .comparison =>
      let (first, after) ← read limits fuel (depth + 1) .bitOr marks
      match comparison? after with
      | none => return (first, after)
      | some _ =>
        let (links, after) ← readLinks limits fuel (depth + 4) after
        return (.chain first links, after)
    | .sign =>
      match marks with
      | [] => throw .malformed
      | mark :: rest =>
        match sign? mark with
        | some sign =>
          let (operand, after) ← read limits fuel (depth + 1) .sign rest
          return (.signed sign operand, after)
        | none => read limits fuel (depth + 1) .power (mark :: rest)
    | .power =>
      let (base, after) ← read limits fuel (depth + 2) .primary marks
      match after with
      | .sign "**" :: rest =>
        let (exponent, after) ← read limits fuel (depth + 1) .sign rest
        return (.binary .pow base exponent, after)
      | _ => return (base, after)
    | .primary =>
      let (atom, after) ← readAtom limits fuel (depth + 2) marks
      readTrailers limits fuel (depth + 1) atom after
    | level =>
      let (left, after) ← read limits fuel (depth + 2) level.tighter marks
      readTail limits fuel depth level left after

def readTail (limits : Limits) :
    Nat → Nat → Level → Formula → List Mark → Except Fault (Read Formula)
  | 0, _, _, _, _ => throw .malformed
  | fuel + 1, depth, level, left, marks =>
    match marks with
    | [] => pure (left, [])
    | first :: rest =>
      match level.join? first with
      | none => pure (left, first :: rest)
      | some join => do
        let (right, after) ← read limits fuel (depth + 2) level.tighter rest
        readTail limits fuel depth level (join left right) after

def readOperands (limits : Limits) :
    Nat → Nat → String → Level → List Mark → Except Fault (Read Items)
  | 0, _, _, _, _ => throw .malformed
  | fuel + 1, depth, between, level, marks =>
    match marks with
    | .word word :: rest => do
      if word != between then return (.none, marks)
      let (operand, after) ← read limits fuel depth level rest
      let (others, after) ← readOperands limits fuel depth between level after
      return (.item operand others, after)
    | marks => pure (.none, marks)

def readLinks (limits : Limits) : Nat → Nat → List Mark → Except Fault (Read Links)
  | 0, _, _ => throw .malformed
  | fuel + 1, depth, marks => do
    let (comparison, rest) ← requireSome (comparison? marks)
    let (right, after) ← read limits fuel depth .bitOr rest
    match comparison? after with
    | none => return (.last comparison right, after)
    | some _ =>
      let (links, after) ← readLinks limits fuel depth after
      return (.more comparison right links, after)

def readAtom (limits : Limits) : Nat → Nat → List Mark → Except Fault (Read Formula)
  | 0, _, _ => throw .malformed
  | fuel + 1, depth, marks => do
    descend limits depth
    match marks with
    | .int n :: rest => return (.literal (.int n), rest)
    | .float x :: rest => return (.literal (.float x), rest)
    | .imaginary x :: rest => return (.literal (.imaginary x), rest)
    | .text _ :: _ | .template .. :: _ =>
      descend limits (depth + 1)
      let (parts, rest) ← readTexts limits fuel marks
      match parts.plain? with
      | some codes => return (.literal (.text codes), rest)
      | none => return (.template parts, rest)
    | .bytes _ :: _ =>
      descend limits (depth + 1)
      let (codes, rest) := adjacentBytes marks
      return (.literal (.bytes codes), rest)
    | .word word :: rest => return (← requireSome (ofWord? word), rest)
    | .sign "..." :: rest => return (.literal .ellipsis, rest)
    | .sign "(" :: .sign ")" :: rest => return (.tuple .none, rest)
    | .sign "(" :: rest =>
      let (first, after) ← readItem limits fuel (depth + 6) rest
      match first, after with
      | .item element .none, .word "for" :: _ =>
        let (clauses, after) ← readClauses limits fuel (depth + 5) after
        return (.comprehension .generator element clauses, ← expect ")" after)
      | _, _ =>
        let (rest, comma, after) ← readRest limits fuel (depth + 8) ")" after
        return (← grouped (join first rest) comma, after)
    | .sign "[" :: .sign "]" :: rest => return (.list .none, rest)
    | .sign "[" :: rest =>
      let (first, after) ← readItem limits fuel (depth + 7) rest
      match first, after with
      | .item element .none, .word "for" :: _ =>
        let (clauses, after) ← readClauses limits fuel (depth + 5) after
        return (.comprehension .list element clauses, ← expect "]" after)
      | _, _ =>
        let (rest, _, after) ← readRest limits fuel (depth + 8) "]" after
        return (.list (join first rest), after)
    | .sign "\x7b" :: .sign "\x7d" :: rest => return (.mapping .none, rest)
    | .sign "\x7b" :: .sign "**" :: _ => readEntries limits fuel (depth + 7) marks.tail
    | .sign "\x7b" :: rest =>
      let (first, after) ← readItem limits fuel (depth + 7) rest
      match first, after with
      | .item element .none, .word "for" :: _ =>
        let (clauses, after) ← readClauses limits fuel (depth + 5) after
        return (.comprehension .set element clauses, ← expect "\x7d" after)
      | .item _ .none, .sign ":" :: _ => readEntries limits fuel (depth + 7) rest
      | _, _ =>
        let (rest, _, after) ← readRest limits fuel (depth + 8) "\x7d" after
        return (.set (join first rest), after)
    | _ => throw .malformed
where
  join : Items → Items → Items
    | .item first _, rest => .item first rest
    | .spread first _, rest => .spread first rest
    | .none, rest => rest

def readItem (limits : Limits) : Nat → Nat → List Mark → Except Fault (Read Items)
  | 0, _, _ => throw .malformed
  | fuel + 1, depth, marks =>
    match marks with
    | .sign "*" :: rest => do
      let (first, after) ← read limits fuel (depth - 1) .bitOr rest
      return (.spread first .none, after)
    | marks => do
      let (first, after) ← readNamed limits fuel depth marks
      return (.item first .none, after)

def readNamed (limits : Limits) : Nat → Nat → List Mark → Except Fault (Read Formula)
  | 0, _, _ => throw .malformed
  | fuel + 1, depth, marks =>
    match marks with
    | .word word :: .sign ":=" :: rest => do
      if !isName word then throw .malformed
      let (value, after) ← read limits fuel (depth + 1) .choice rest
      return (.bind word value, after)
    | marks => read limits fuel depth .choice marks

/-- The items after the first up to a closing sign; whether there was a comma, and what follows. -/
def readRest (limits : Limits) :
    Nat → Nat → String → List Mark → Except Fault (Items × Bool × List Mark)
  | 0, _, _, _ => throw .malformed
  | fuel + 1, depth, close, marks => do
    match marks with
    | .sign "," :: rest =>
      if startsWith close rest then return (.none, true, rest.tail)
      let (first, after) ← readItem limits fuel depth rest
      let (others, _, after) ← readRest limits fuel (depth + 1) close after
      match first with
      | .spread first _ => return (.spread first others, true, after)
      | .item first _ => return (.item first others, true, after)
      | .none => throw .malformed
    | marks => return (.none, false, ← expect close marks)

def readEntries (limits : Limits) : Nat → Nat → List Mark → Except Fault (Read Formula)
  | 0, _, _ => throw .malformed
  | fuel + 1, depth, marks => do
    let (entry, after) ← readEntry limits fuel depth marks
    match entry, after with
    | .entry key value .none, .word "for" :: _ =>
      let (clauses, after) ← readClauses limits fuel (depth - 2) after
      return (.comprehension .mapping (.tuple (.item key (.item value .none))) clauses,
        ← expect "\x7d" after)
    | _, _ =>
      let (entries, after) ← readMoreEntries limits fuel (depth + 1) entry after
      return (.mapping entries, after)

def readEntry (limits : Limits) : Nat → Nat → List Mark → Except Fault (Read Entries)
  | 0, _, _ => throw .malformed
  | fuel + 1, depth, marks =>
    match marks with
    | .sign "**" :: rest => do
      let (values, after) ← read limits fuel (depth - 1) .bitOr rest
      return (.spread values .none, after)
    | marks => do
      let (key, after) ← read limits fuel depth .choice marks
      let (value, after) ← read limits fuel depth .choice (← expect ":" after)
      return (.entry key value .none, after)

def readMoreEntries (limits : Limits) : Nat → Nat → Entries → List Mark → Except Fault (Read Entries)
  | 0, _, _, _ => throw .malformed
  | fuel + 1, depth, entry, marks => do
    let (others, after) ←
      match marks with
      | .sign "," :: rest =>
        if startsWith "\x7d" rest then pure (.none, rest.tail)
        else do
          let (next, after) ← readEntry limits fuel depth rest
          readMoreEntries limits fuel depth next after
      | marks => do pure (.none, ← expect "\x7d" marks)
    match entry with
    | .entry key value _ => return (.entry key value others, after)
    | .spread values _ => return (.spread values others, after)
    | .none => return (others, after)

def readClauses (limits : Limits) : Nat → Nat → List Mark → Except Fault (Read Clauses)
  | 0, _, _ => throw .malformed
  | fuel + 1, depth, marks =>
    match marks with
    | .word "for" :: rest => do
      let (target, after) ← readTargets limits fuel depth rest
      match after with
      | .word "in" :: rest =>
        let (source, after) ← read limits fuel (depth + 1) .disjunction rest
        let (conditions, after) ← readConditions limits fuel (depth + 3) after
        let (others, after) ←
          if startsWithWord "for" after then readClauses limits fuel depth after
          else pure (.none, after)
        return (.clause target source conditions others, after)
      | _ => throw .malformed
    | _ => throw .malformed

def readConditions (limits : Limits) : Nat → Nat → List Mark → Except Fault (Read Items)
  | 0, _, _ => throw .malformed
  | fuel + 1, depth, marks =>
    match marks with
    | .word "if" :: rest => do
      let (condition, after) ← read limits fuel depth .disjunction rest
      let (others, after) ← readConditions limits fuel depth after
      return (.item condition others, after)
    | marks => pure (.none, marks)

def readTargets (limits : Limits) : Nat → Nat → List Mark → Except Fault (Read Target)
  | 0, _, _ => throw .malformed
  | fuel + 1, depth, marks => do
    let (items, comma, after) ← readTargetItems limits fuel depth marks
    let target ← requireSome (Target.ofFormula? (← grouped items comma))
    return (target, after)

def readTargetItems (limits : Limits) :
    Nat → Nat → List Mark → Except Fault (Items × Bool × List Mark)
  | 0, _, _ => throw .malformed
  | fuel + 1, depth, marks => do
    let (several, marks) := match marks with
      | .sign "*" :: rest => (true, rest)
      | marks => (false, marks)
    let (first, after) ← read limits fuel (depth + 5) .primary marks
    let (others, comma, after) ←
      match after with
      | .sign "," :: rest =>
        if startsWithWord "in" rest then pure (.none, true, rest)
        else do
          let (others, _, after) ← readTargetItems limits fuel depth rest
          pure (others, true, after)
      | after => pure (.none, false, after)
    return (if several then .spread first others else .item first others, comma, after)

def readTrailers (limits : Limits) : Nat → Nat → Formula → List Mark → Except Fault (Read Formula)
  | 0, _, _, _ => throw .malformed
  | fuel + 1, depth, owner, marks =>
    match marks with
    | .sign "(" :: rest => do
      let (inputs, after) ← readInputs limits fuel depth rest
      readTrailers limits fuel depth (.call owner inputs) after
    | .sign "[" :: rest => do
      let (items, comma, after) ← readSlices limits fuel (depth + 3) rest
      let index := match items, comma with
        | .item first .none, false => first
        | items, _ => .tuple items
      readTrailers limits fuel depth (.subscript owner index) after
    | .sign "." :: .word word :: rest => do
      if !isName word then throw .malformed
      readTrailers limits fuel depth (.field owner word) rest
    | rest => pure (owner, rest)

def readSlices (limits : Limits) :
    Nat → Nat → List Mark → Except Fault (Items × Bool × List Mark)
  | 0, _, _ => throw .malformed
  | fuel + 1, depth, marks => do
    let (first, spread, after) ←
      match marks with
      | .sign "*" :: rest => do
        let (first, after) ← read limits fuel depth .choice rest
        pure (first, true, after)
      | marks => do
        let (first, after) ← readSlice limits fuel depth marks
        pure (first, false, after)
    let (others, comma, after) ←
      match after with
      | .sign "," :: rest =>
        if startsWith "]" rest then pure (.none, true, rest.tail)
        else do
          let (others, _, after) ← readSlices limits fuel (depth + 3) rest
          pure (others, true, after)
      | after => do pure (.none, false, ← expect "]" after)
    return (if spread then .spread first others else .item first others, comma, after)

def readSlice (limits : Limits) : Nat → Nat → List Mark → Except Fault (Read Formula)
  | 0, _, _ => throw .malformed
  | fuel + 1, depth, marks => do
    let (start, after) ← readBound limits fuel depth marks
    match after with
    | .sign ":" :: rest =>
      let (stop, after) ← readBound limits fuel depth rest
      let (step, after) ←
        match after with
        | .sign ":" :: rest => readBound limits fuel depth rest
        | after => pure (none, after)
      let bound (formula : Option Formula) := formula.getD (.literal .nothing)
      return (.slice (bound start) (bound stop) (bound step), after)
    | after =>
      match marks with
      | .word _ :: .sign ":=" :: _ => readNamed limits fuel (depth + 1) marks
      | _ => return (← requireSome start, after)

def readBound (limits : Limits) : Nat → Nat → List Mark → Except Fault (Read (Option Formula))
  | 0, _, _ => throw .malformed
  | fuel + 1, depth, marks => do
    if startsWith ":" marks || startsWith "," marks || startsWith "]" marks then
      return (none, marks)
    let (bound, after) ← read limits fuel depth .choice marks
    return (some bound, after)

def readInputs (limits : Limits) : Nat → Nat → List Mark → Except Fault (Read Inputs)
  | 0, _, _ => throw .malformed
  | fuel + 1, depth, marks =>
    match marks with
    | .sign ")" :: rest => pure (.none, rest)
    | marks => do
      if startsWith "*" marks || startsWith "**" marks then
        readMoreInputs limits fuel (depth + 6) .positions marks
      else
        let (first, after) ← readNamed limits fuel (depth + 3) marks
        match after with
        | .word "for" :: _ =>
          let (clauses, after) ← readClauses limits fuel (depth + 4) after
          return (.item (.comprehension .generator first clauses) .none, ← expect ")" after)
        | _ => readMoreInputs limits fuel (depth + 6) .positions marks

/-- Arguments up to the closing parenthesis. Those by position come first; after one by name only
those by name and sequences follow, and after a mapping only those by name and mappings. -/
def readMoreInputs (limits : Limits) : Nat → Nat → InputPhase → List Mark → Except Fault (Read Inputs)
  | 0, _, _, _ => throw .malformed
  | fuel + 1, depth, phase, marks => do
    let (add, phase, after) ← readInput limits fuel depth phase marks
    match after with
    | .sign "," :: .sign ")" :: rest => return (add .none, rest)
    | .sign "," :: rest =>
      let (others, after) ← readMoreInputs limits fuel depth phase rest
      return (add others, after)
    | after => return (add .none, ← expect ")" after)

def readInput (limits : Limits) :
    Nat → Nat → InputPhase → List Mark →
      Except Fault ((Inputs → Inputs) × InputPhase × List Mark)
  | 0, _, _, _ => throw .malformed
  | fuel + 1, depth, phase, marks => do
    match marks with
    | .sign "**" :: rest =>
      let (values, after) ← read limits fuel depth .choice rest
      return (.spreadNamed values, .mappings, after)
    | .sign "*" :: rest =>
      if phase = .mappings then throw .malformed
      let (values, after) ← read limits fuel depth .choice rest
      return (.spread values, phase, after)
    | .word word :: .sign "=" :: rest =>
      if !isName word then throw .malformed
      let (value, after) ← read limits fuel depth .choice rest
      return (.named word value, if phase = .mappings then phase else .names, after)
    | marks =>
      if phase ≠ .positions then throw .malformed
      let (value, after) ← readNamed limits fuel depth marks
      return (.item value, phase, after)

def readFunction (limits : Limits) : Nat → Nat → List Mark → Except Fault (Read Formula)
  | 0, _, _ => throw .malformed
  | fuel + 1, depth, marks => do
    let (parameters, _, after) ← readParameters limits fuel (depth + 6) {} marks
    let (body, after) ← read limits fuel (depth + 1) .choice after
    return (.function parameters body, after)

def readParameters (limits : Limits) :
    Nat → Nat → ParameterState → List Mark → Except Fault (Parameters × Bool × List Mark)
  | 0, _, _, _ => throw .malformed
  | fuel + 1, depth, state, marks => do
    match marks with
    | .sign ":" :: rest => if state.pending then throw .malformed else return (.none, false, rest)
    | .sign "/" :: rest =>
      if !state.divisible then throw .malformed
      let (others, _, after) ←
        readSeparated limits fuel depth { state with divisible := false } rest
      return (others, true, after)
    | marks =>
      if state.closed then throw .malformed
      let (add, state, after) ← readParameter limits fuel depth state marks
      let (others, divided, after) ← readSeparated limits fuel depth state after
      return (add divided others, divided, after)

def readSeparated (limits : Limits) :
    Nat → Nat → ParameterState → List Mark → Except Fault (Parameters × Bool × List Mark)
  | 0, _, _, _ => throw .malformed
  | fuel + 1, depth, state, marks =>
    match marks with
    | .sign "," :: rest => readParameters limits fuel depth state rest
    | .sign ":" :: rest => if state.pending then throw .malformed else pure (.none, false, rest)
    | _ => throw .malformed

/-- One parameter, or a bare star. What is made of it depends on whether a slash follows. -/
def readParameter (limits : Limits) :
    Nat → Nat → ParameterState → List Mark →
      Except Fault ((Bool → Parameters → Parameters) × ParameterState × List Mark)
  | 0, _, _, _ => throw .malformed
  | fuel + 1, depth, state, marks => do
    let fresh (word : String) : Except Fault (List String) :=
      if isName word && !state.names.contains word && word != "__debug__" then
        pure (word :: state.names)
      else throw .malformed
    let passing (divided : Bool) : Passing :=
      if state.named then .named else if divided then .positional else .either
    match marks with
    | .sign "**" :: .word word :: rest =>
      if state.pending then throw .malformed
      return (fun _ => .othersNamed word,
        { state with names := ← fresh word, closed := true, divisible := false }, rest)
    | .sign "*" :: .word word :: rest =>
      if state.named then throw .malformed
      return (fun _ => .others word,
        { state with names := ← fresh word, named := true, divisible := false }, rest)
    | .sign "*" :: rest =>
      if state.named then throw .malformed
      return (fun _ => id, { state with named := true, pending := true, divisible := false }, rest)
    | .word word :: .sign "=" :: rest =>
      let names ← fresh word
      let (fallback, after) ← read limits fuel depth .choice rest
      return (fun divided => .optional (passing divided) word fallback,
        { state with
          names, optional := true, pending := false, divisible := state.divisible || names.length == 1 },
        after)
    | .word word :: rest =>
      if state.optional && !state.named then throw .malformed
      let names ← fresh word
      return (fun divided => .required (passing divided) word,
        { state with names, pending := false, divisible := state.divisible || names.length == 1 }, rest)
    | _ => throw .malformed

def readTexts (limits : Limits) : Nat → List Mark → Except Fault (Read Parts)
  | 0, _ => throw .malformed
  | fuel + 1, marks =>
    match marks with
    | .text codes :: rest => do
      let (others, after) ← readTexts limits fuel rest
      return (.text codes others, after)
    | .template raw body :: rest => do
      let (parts, left) ← readParts limits fuel raw 0 body
      if !left.isEmpty then throw .malformed
      let (others, after) ← readTexts limits fuel rest
      return (parts.append others, after)
    | rest => pure (.none, rest)

/-- The parts of a quotation with formulas in braces, up to its end or, inside a layout, up to the
brace that closes it. `level` counts the layouts around. -/
def readParts (limits : Limits) : Nat → Bool → Nat → List Char → Except Fault (Parts × List Char)
  | 0, _, _, _ => throw .malformed
  | fuel + 1, raw, level, body => do
    let (text, more, after) ← requireSome (plainPart raw (level == 0) (body.length + 1) body)
    let codes ← requireSome (Quoting.decode { raw } text)
    if more then
      let (others, after) ← readParts limits fuel raw level after
      return (.text codes others, after)
    match after with
    | [] => return (.text codes .none, [])
    | c :: rest =>
      if c == closeBrace then return (.text codes .none, after)
      if 2 ≤ level then throw .malformed
      let (place, after) ← readPlace limits fuel raw level rest
      let (others, after) ← readParts limits fuel raw level after
      return (.text codes (place.append others), after)

def readPlace (limits : Limits) : Nat → Bool → Nat → List Char → Except Fault (Parts × List Char)
  | 0, _, _, _ => throw .malformed
  | fuel + 1, raw, level, text => do
    let (spelled, after) ← requireSome (formulaPart (text.length + 1) none [] text)
    if isBlankFormula spelled then throw .malformed
    let (value, left) ← read limits fuel 4 .choice (marksOf limits.nesting ('(' :: spelled ++ [')']))
    if !left.isEmpty then throw .malformed
    let (equals, after) := equalsPart after
    let (conversion, after) ← requireSome (conversionPart after)
    let (format, laid, after) ←
      match after with
      | ':' :: rest => do
        let (format, after) ← readParts limits fuel raw (level + 1) rest
        pure (format, true, after)
      | after => pure (.none, false, after)
    match after with
    | c :: rest =>
      if c != closeBrace then throw .malformed
      if equals.isEmpty then return (.place value conversion format .none, rest)
      let conversion := if conversion.isNone && !laid then some .written else conversion
      return (.text ((spelled ++ equals).map Char.toNat) (.place value conversion format .none), rest)
    | [] => throw .malformed

end

def readAll (limits : Limits) : Nat → Nat → List Mark → Except Fault (Items × Bool)
  | 0, _, _ => throw .malformed
  | fuel + 1, depth, marks => do
    let (first, after) ← read limits fuel depth .choice marks
    match after with
    | [] => return (.item first .none, false)
    | [.sign ","] => return (.item first .none, true)
    | .sign "," :: rest =>
      let (others, _) ← readAll limits fuel 5 rest
      return (.item first others, true)
    | _ => throw .malformed

/-- Between two characters a reading goes through each level at most twice. -/
def readingFuel (text : List Char) : Nat := 50 * (text.length + 2)

/-- The formula that a text spells. Several formulas with commas between them are a tuple. -/
def ofText (limits : Limits) (text : List Char) : Except Fault Formula := do
  let (items, comma) ← readAll limits (readingFuel text) 3 (marksOf limits.nesting text)
  grouped items comma

end Workbench.Formula
