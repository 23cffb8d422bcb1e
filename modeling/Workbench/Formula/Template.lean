import Workbench.Formula.Digits
import Workbench.Formula.Written

/-! Texts and byte strings with places to fill. A percent sign starts a place: a key, flags, a width, a
precision, and a letter that says how the next argument is shown. -/

set_option autoImplicit false

namespace Workbench.Formula

open Text (Codes codes)

structure Place where
  left : Bool := false
  plus : Bool := false
  blank : Bool := false
  alternate : Bool := false
  zeros : Bool := false
  width : Option Nat := none
  precision : Option Nat := none

/-- The arguments that are left. Only a tuple stands for several; a collection that can be asked for
keys need not be used up. -/
structure Arguments where
  left : List Value
  keyed : Option Value

def Arguments.ofValue (bytes : Bool) : Value → Arguments
  | .tuple items => ⟨items, none⟩
  | .list place => ⟨[.list place], some (.list place)⟩
  | .mapping place => ⟨[.mapping place], some (.mapping place)⟩
  | .bytes content => ⟨[.bytes content], if bytes then none else some (.bytes content)⟩
  | value => ⟨[value], none⟩

def Arguments.next (arguments : Arguments) : Except Fault (Value × Arguments) :=
  match arguments.left with
  | [] => throw .tooFewArguments
  | value :: rest => pure (value, { arguments with left := rest })

/-- The argument under a key, which then is the only one left. -/
def Arguments.underKey (arguments : Arguments) (key : Value) : Eval Arguments :=
  match arguments.keyed with
  | none => throw .mappingNeeded
  | some (.mapping place) => do
    match entryOf? key (← mappingAt place) with
    | some value => return { arguments with left := [value] }
    | none => missingKey key
  | some (.list _) => throw (.sequenceIndex "list" key.typeName)
  | some _ => throw (.bytesIndex key.typeName)

def readFlags (place : Place) : Codes → Place × Codes
  | [] => (place, [])
  | code :: rest =>
    if code == '-'.toNat then readFlags { place with left := true } rest
    else if code == '+'.toNat then readFlags { place with plus := true } rest
    else if code == ' '.toNat then readFlags { place with blank := true } rest
    else if code == '#'.toNat then readFlags { place with alternate := true } rest
    else if code == '0'.toNat then readFlags { place with zeros := true } rest
    else (place, code :: rest)

def isDecimalCode (code : Nat) : Bool := '0'.toNat ≤ code && code ≤ '9'.toNat

def readSize (limit : Nat) (tooBig tooLarge : Fault) (text : Codes) (arguments : Arguments) :
    Except Fault (Option Int × Codes × Arguments) :=
  match text with
  | [] => pure (none, [], arguments)
  | code :: rest =>
    if code == '*'.toNat then do
      let (value, arguments) ← arguments.next
      match value.integer? with
      | none => throw .widthNotInteger
      | some n =>
        if -(limit : Int) ≤ n && n < limit then pure (some n, rest, arguments) else throw tooLarge
    else if isDecimalCode code then
      let digits := (code :: rest).takeWhile isDecimalCode
      let size := digits.foldl (fun size digit => 10 * size + (digit - '0'.toNat)) 0
      if size < limit then pure (some size, (code :: rest).dropWhile isDecimalCode, arguments)
      else throw tooBig
    else pure (none, code :: rest, arguments)

def Place.signFor (place : Place) (negative : Bool) : Codes :=
  if negative then ['-'.toNat]
  else if place.plus then ['+'.toNat]
  else if place.blank then [' '.toNat]
  else []

def Place.fill (place : Place) (text : Codes) : Codes :=
  let missing := place.width.getD 0 - text.length
  if place.left then text ++ List.replicate missing ' '.toNat
  else List.replicate missing ' '.toNat ++ text

def Place.fillNumber (place : Place) (negative : Bool) (base : String) (digits : Codes) : Codes :=
  let head := place.signFor negative ++ codes base
  let missing := place.width.getD 0 - (head.length + digits.length)
  if place.zeros && !place.left then head ++ List.replicate missing '0'.toNat ++ digits
  else place.fill (head ++ digits)

def wholeOf? : Value → Option (Except Fault Int)
  | .float x =>
    some <| match Number.Binary64.ofFloat x with
      | .undefined => throw .undefinedToInt
      | .infinite _ => throw .infiniteToInt
      | .finite negative significand exponent => pure (Number.truncate negative significand exponent)
  | value => value.integer?.map pure

def Place.showInteger (place : Place) (letter : Char) (base : Nat) (mark : String) (n : Int) :
    Except Fault Codes :=
  if base == 10 && Number.tenTo digitLimit ≤ n.natAbs then throw .textOfTooMany
  else
    let digits := padded (place.precision.getD 0) (Nat.toDigits base n.natAbs)
    let digits := if letter == 'X' then digits.map Char.toUpper else digits
    pure (place.fillNumber (n < 0) (if place.alternate then mark else "") (digits.map Char.toNat))

def Place.showWhole (place : Place) (letter : Char) (value : Value) : Except Fault Codes :=
  if letter == 'o' || letter == 'x' || letter == 'X' then
    match value.integer? with
    | none => throw (.integerNeeded letter value.typeName)
    | some n =>
      place.showInteger letter (if letter == 'o' then 8 else 16)
        (if letter == 'o' then "0o" else if letter == 'x' then "0x" else "0X") n
  else
    match wholeOf? value with
    | none => throw (.realNeeded letter value.typeName)
    | some whole => do place.showInteger letter 10 "" (← whole)

def Place.showFloat (place : Place) (bytes : Bool) (letter : Char) (value : Value) :
    Except Fault Codes :=
  match value.number? with
  | none => throw (if bytes then .byteFloat value.typeName else .floatNeeded value.typeName)
  | some n => do
    let x ← toFloat n
    let text := floatText letter.toLower place.alternate (place.precision.getD 6) x
    let text := if letter.isUpper then text.toUpper else text
    let negative := text.startsWith "-"
    return place.fillNumber negative "" ((codes text).drop (if negative then 1 else 0))

def characterOf : Value → Except Fault Nat
  | .text [code] => pure code
  | value =>
    match value.integer? with
    | none => throw .characterNeeded
    | some n => if 0 ≤ n && n ≤ 0x10FFFF then pure n.toNat else throw .characterRange

def byteOf : Value → Except Fault Nat
  | .bytes [code] => pure code
  | value =>
    match value.integer? with
    | none => throw .byteNeeded
    | some n => if 0 ≤ n && n ≤ 255 then pure n.toNat else throw .byteFormatRange

/-- How an argument of any type is shown: in a text by a conversion; in a byte string only byte strings
are shown as they are. -/
def showAny (bytes : Bool) (letter : Char) (value : Value) : Eval Codes :=
  if bytes then
    match letter, value with
    | 's', .bytes content | 'b', .bytes content => pure content
    | 's', value | 'b', value => throw (.bytesNeeded value.typeName)
    | _, value => converted .ascii value
  else converted (if letter == 's' then .shown else if letter == 'r' then .written else .ascii) value

def Place.show (place : Place) (bytes : Bool) (code index : Nat) (value : Value) : Eval Codes :=
  let letter := Char.ofNat code
  if letter == 's' || letter == 'r' || letter == 'a' || (bytes && letter == 'b') then do
    let text ← showAny bytes letter value
    return place.fill ((place.precision.map fun count => text.take count).getD text)
  else if "diuoxX".toList.contains letter then place.showWhole letter value
  else if "eEfFgG".toList.contains letter then place.showFloat bytes letter value
  else if letter == 'c' then do
    return place.fill [← if bytes then byteOf value else characterOf value]
  else throw (.unknownFormat code index)

/-- Drops a letter for the size of a number, which has no meaning, if something may follow it. -/
def dropSizeLetter : Codes → Codes
  | code :: rest =>
    if code == 'h'.toNat || code == 'l'.toNat || code == 'L'.toNat then rest else code :: rest
  | [] => []

def readKey : Nat → Codes → Except Fault (Codes × Codes)
  | _, [] => throw .incompleteKey
  | depth, code :: rest =>
    if code == ')'.toNat && depth == 0 then pure ([], rest)
    else do
      let depth :=
        if code == '('.toNat then depth + 1 else if code == ')'.toNat then depth - 1 else depth
      let (key, after) ← readKey depth rest
      return (code :: key, after)

def fillPlace (bytes : Bool) (length : Nat) (text : Codes) (arguments : Arguments) :
    Eval (Codes × Codes × Arguments) := do
  let (text, arguments) ←
    if text.head? == some '('.toNat then do
      if arguments.keyed.isNone then throw .mappingNeeded
      let (key, rest) ← readKey 0 text.tail
      pure (rest, ← arguments.underKey (if bytes then .bytes key else .text key))
    else pure (text, arguments)
  let (place, text) := readFlags {} text
  let (width, text, arguments) ← readSize (Number.twoTo 63) .widthTooBig .wordTooLarge text arguments
  if width.any fun width => memoryLimit ≤ width.natAbs then throw .outOfMemory
  let place := { place with
    width := width.map Int.natAbs
    left := place.left || width.any (· < 0) }
  let (place, text, arguments) ← match text with
    | code :: rest =>
      if code == '.'.toNat then do
        let (precision, text, arguments) ←
          readSize (Number.twoTo 31) .precisionTooBig .halfWordTooLarge rest arguments
        pure ({ place with precision := some (precision.getD 0).toNat }, text, arguments)
      else pure (place, code :: rest, arguments)
    | [] => pure (place, [], arguments)
  match dropSizeLetter text with
  | [] => throw .incompleteFormat
  | code :: rest =>
    if code == '%'.toNat then return (['%'.toNat], rest, arguments)
    else
      let (value, arguments) ← arguments.next
      return (← place.show bytes code (length - rest.length - 1) value, rest, arguments)

/-- Fills the places of a text of the given length; `fuel` bounds their number. Every argument has to
be used. -/
def fillFrom (bytes : Bool) (length : Nat) : Nat → Codes → Arguments → Eval Codes
  | 0, _, _ => pure []
  | fuel + 1, text, arguments =>
    let plain := text.takeWhile (· != '%'.toNat)
    match text.dropWhile (· != '%'.toNat) with
    | [] =>
      if arguments.left.isEmpty || arguments.keyed.isSome then pure plain
      else throw (.unconverted (if bytes then "bytes" else "string"))
    | _ :: rest => do
      let (filled, after, arguments) ← fillPlace bytes length rest arguments
      return plain ++ filled ++ (← fillFrom bytes length fuel after arguments)

def fillTemplate (bytes : Bool) (text : Codes) (value : Value) : Eval Codes :=
  fillFrom bytes text.length (text.length + 1) text (.ofValue bytes value)

end Workbench.Formula
