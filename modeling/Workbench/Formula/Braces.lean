import Workbench.Formula.Attribute

/-! Texts with places between braces, which the arguments of a call fill: a place tells which argument,
which part of it, how it is converted, and how it is laid out. -/

set_option autoImplicit false

namespace Workbench.Formula

open Text (Codes)

namespace Braces

/-- What a place says: the argument, the conversion, and the description of a layout, which may have
places of its own. -/
structure Field where
  path : Codes
  conversion : Option Nat := none
  description : Codes := []
  nested : Bool := false

inductive Counting where
  | undecided
  | automatic (next : Nat)
  | manual

/-- The arguments that places can name; places of a mapping have no positions. -/
structure Source where
  positional : Option (List Value)
  named : Value → Eval Value

def readPath : Bool → Codes → Except Fault (Codes × Nat × Codes)
  | _, [] => throw (.braces .unclosed)
  | true, code :: rest => do
    let (path, stop, after) ← readPath (code != ']'.toNat) rest
    return (code :: path, stop, after)
  | false, code :: rest => do
    if code == '\x7b'.toNat then throw (.braces .openingInField)
    if code == '\x7d'.toNat || code == ':'.toNat || code == '!'.toNat then return ([], code, rest)
    let (path, stop, after) ← readPath (code == '['.toNat) rest
    return (code :: path, stop, after)

def readDescription : Nat → Codes → Except Fault (Codes × Codes)
  | _, [] => throw (.braces .unmatchedInLayout)
  | depth, code :: rest => do
    if code == '\x7d'.toNat && depth == 0 then return ([], rest)
    let depth :=
      if code == '\x7b'.toNat then depth + 1 else if code == '\x7d'.toNat then depth - 1 else depth
    let (description, after) ← readDescription depth rest
    return (code :: description, after)

def withDescription (path : Codes) (conversion : Option Nat) (text : Codes) :
    Except Fault (Field × Codes) := do
  let (description, after) ← readDescription 0 text
  return ({ path, conversion, description, nested := description.contains '\x7b'.toNat }, after)

def readField (text : Codes) : Except Fault (Field × Codes) := do
  let (path, stop, after) ← readPath false text
  if stop == '\x7d'.toNat then return ({ path }, after)
  if stop == ':'.toNat then withDescription path none after
  else
    match after with
    | [] => throw (.braces .noConversion)
    | conversion :: after =>
      match after with
      | [] => throw (.braces .unmatchedInLayout)
      | code :: after =>
        if code == '\x7d'.toNat then return ({ path, conversion := some conversion }, after)
        if code != ':'.toNat then throw (.braces .noColon)
        withDescription path (some conversion) after

def index? (text : Codes) : Except Fault (Option Nat) :=
  match text.mapM Text.decimalValue? with
  | none | some [] => pure none
  | some digits =>
    let n : Nat := digits.foldl (fun value digit => 10 * value + digit) 0
    if fitsWord n then pure (some n) else throw (.braces .fieldTooLarge)

def argumentOf (source : Source) (counting : Counting) (word : Codes) : Eval (Value × Counting) := do
  let position ← index? word
  let at? (position : Nat) (counting : Counting) : Eval (Value × Counting) :=
    match source.positional with
    | none => throw (.braces .needsSequence)
    | some values =>
      match values[position]? with
      | some value => pure (value, counting)
      | none => throw (.braces (.outOfRange position))
  if word.isEmpty then
    match counting with
    | .undecided => at? 0 (.automatic 1)
    | .automatic next => at? next (.automatic (next + 1))
    | .manual => throw (.braces .switchToNames)
  else
    match position, counting with
    | some _, .automatic _ => throw (.braces .switchToNumbers)
    | some position, _ => at? position .manual
    | none, counting => return (← source.named (.text word), counting)

def itemUnder (value : Value) (word : Codes) : Eval Value := do
  match ← index? word with
  | some position => subscriptOf value (.int position)
  | none => subscriptOf value (.text word)

def follow : Nat → Value → Codes → Eval Value
  | 0, value, _ => pure value
  | _ + 1, value, [] => pure value
  | fuel + 1, value, code :: rest => do
    if code == '.'.toNat then
      let word := rest.takeWhile fun code => code != '.'.toNat && code != '['.toNat
      if word.isEmpty then throw (.braces .emptyField)
      let part ← fieldOf value (String.ofList (word.map Char.ofNat))
      follow fuel part (rest.drop word.length)
    else if code == '['.toNat then
      let word := rest.takeWhile (· != ']'.toNat)
      match rest.drop word.length with
      | [] => throw (.braces .unclosedBracket)
      | _ :: after =>
        if word.isEmpty then throw (.braces .emptyField)
        follow fuel (← itemUnder value word) after
    else throw (.braces .afterBracket)

def convertedBy (conversion : Option Nat) (value : Value) : Eval Value :=
  match conversion with
  | none => pure value
  | some code =>
    if code == 'r'.toNat then return .text (← converted .written value)
    else if code == 's'.toNat then return .text (← converted .shown value)
    else if code == 'a'.toNat then return .text (← converted .ascii value)
    else throw (.braces (.unknownConversion code))

/-- The text up to the next brace that is not doubled; whether a place follows it; and what follows. -/
def plainPart : Codes → Except Fault (Codes × Bool × Codes)
  | [] => pure ([], false, [])
  | [code] =>
    if code == '\x7b'.toNat then throw (.braces .singleOpening)
    else if code == '\x7d'.toNat then throw (.braces .singleClosing)
    else pure ([code], false, [])
  | code :: next :: rest => do
    if (code == '\x7b'.toNat || code == '\x7d'.toNat) && code == next then
      let (plain, place, after) ← plainPart rest
      return (code :: plain, place, after)
    if code == '\x7d'.toNat then throw (.braces .singleClosing)
    if code == '\x7b'.toNat then return ([], true, next :: rest)
    let (plain, place, after) ← plainPart (next :: rest)
    return (code :: plain, place, after)

/-- Fills the places of a text. Descriptions may have places too, but these may not; `fuel` bounds the
number of places. -/
def fill (source : Source) : Nat → Nat → Counting → Codes → Eval (Codes × Counting)
  | 0, _, counting, _ => pure ([], counting)
  | _ + 1, 0, _, _ => throw (.braces .tooDeep)
  | fuel + 1, depth + 1, counting, text => do
    let (plain, placed, after) ← plainPart text
    if !placed then return (plain, counting)
    let (place, after) ← readField after
    let word := place.path.takeWhile fun code => code != '.'.toNat && code != '['.toNat
    let (value, counting) ← argumentOf source counting word
    let value ← follow (place.path.length + 1) value (place.path.drop word.length)
    let value ← convertedBy place.conversion value
    let (description, counting) ←
      if place.nested then fill source fuel depth counting place.description
      else pure (place.description, counting)
    let filled ← laidOut value description
    let (rest, counting) ← fill source fuel (depth + 1) counting after
    return (plain ++ filled ++ rest, counting)

def fillAll (source : Source) (text : Codes) : Eval Value := do
  return .text (← fill source (2 * text.length + 2) 2 .undecided text).1

def format (text : Codes) (passed : Passed) : Eval Value :=
  fillAll ⟨some passed.positional, named⟩ text
where
  named (key : Value) : Eval Value :=
    match passed.named.find? fun entry => key.same (.text (Text.codes entry.1)) with
    | some (_, value) => pure value
    | none => missingKey key

def formatMap (text : Codes) (passed : Passed) : Eval Value := do
  let mapping ← passed.single ⟨"str", "format_map"⟩
  fillAll ⟨none, subscriptOf mapping⟩ text

end Braces

end Workbench.Formula
