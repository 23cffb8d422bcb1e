import Workbench.Formula.Digits
import Workbench.Formula.Written

/-! Values laid out by a short description: what to fill with, how to align, which sign to show, how wide
to be, where to separate digits, how precise to be, and a letter for the notation. -/

set_option autoImplicit false

namespace Workbench.Formula

open Text (Codes codes)

structure Layout where
  fill : Nat := ' '.toNat
  align : Char
  sign : Option Char := none
  /-- Zero has no sign. -/
  plainZero : Bool := false
  alternate : Bool := false
  width : Option Nat := none
  separator : Option Char := none
  precision : Option Nat := none
  /-- The letter for the notation, by its code. -/
  letter : Option Nat := none

namespace Layout

def isAlignment (code : Nat) : Bool :=
  code == '<'.toNat || code == '>'.toNat || code == '='.toNat || code == '^'.toNat

def isSign (code : Nat) : Bool := code == '+'.toNat || code == '-'.toNat || code == ' '.toNat

def skip (c : Char) (text : Codes) : Bool × Codes :=
  if text.head? == some c.toNat then (true, text.tail) else (false, text)

def readNumber (text : Codes) : Except Fault (Option Nat × Codes) :=
  let digits := text.takeWhile fun code => (Text.decimalValue? code).isSome
  let number := (digits.filterMap Text.decimalValue?).foldl (fun number digit => 10 * number + digit) 0
  if digits.isEmpty then pure (none, text)
  else if Number.twoTo 63 ≤ number then throw (.layout .tooManyDigits)
  else pure (some number, text.drop digits.length)

/-- What to fill with and how to align, at the head of a description; whether each was said. -/
def readAlignment (align : Char) (text : Codes) : Layout × Bool × Bool × Codes :=
  match text with
  | fill :: code :: rest =>
    if isAlignment code then ({ fill, align := Char.ofNat code }, true, true, rest)
    else if isAlignment fill then ({ align := Char.ofNat fill }, false, true, code :: rest)
    else ({ align }, false, false, text)
  | [code] =>
    if isAlignment code then ({ align := Char.ofNat code }, false, true, [])
    else ({ align }, false, false, text)
  | [] => ({ align }, false, false, [])

def readSeparator (text : Codes) : Except Fault (Option Char × Codes) :=
  let (comma, rest) := skip ',' text
  let (line, after) := skip '_' rest
  if (comma && line) || (line && after.head? == some ','.toNat) then throw (.layout .bothSeparators)
  else pure (if comma then some ',' else if line then some '_' else none, after)

def separable : List Char := ['d', 'e', 'f', 'g', 'E', 'G', '%', 'F']

/-- A separator needs a notation that has one: groups of three in decimal, and low lines also in the
bases that are powers of two. -/
def checkSeparator (layout : Layout) (standard : Option Char) : Except Fault Unit :=
  match layout.separator with
  | none => pure ()
  | some separator =>
    match layout.letter, standard with
    | none, none => pure ()
    | letter, standard =>
      let code := letter.getD ((standard.map Char.toNat).getD 0)
      if separable.any fun c => c.toNat == code then pure ()
      else if separator == '_' && ['b', 'o', 'x', 'X'].any fun c => c.toNat == code then pure ()
      else throw (.layout (.separator separator code))

/-- The layout that a description asks for, for a value of the given type; `align` and `standard` are
the alignment and the letter that go without saying. -/
def read (type : String) (align : Char) (standard : Option Char) (description : Codes) :
    Except Fault Layout := do
  let (layout, filled, aligned, text) := readAlignment align description
  let (layout, text) := match text with
    | code :: rest =>
      if isSign code then ({ layout with sign := some (Char.ofNat code) }, rest) else (layout, text)
    | [] => (layout, [])
  let (plainZero, text) := skip 'z' text
  let (alternate, text) := skip '#' text
  let (zeros, text) := if filled then (false, text) else skip '0' text
  let layout :=
    if zeros then
      { layout with
        fill := '0'.toNat
        align := if !aligned && align == '>' then '=' else layout.align }
    else layout
  let (width, text) ← readNumber text
  let (separator, text) ← readSeparator text
  let (point, text) := skip '.' text
  let (precision, text) ← if point then readNumber text else pure (none, text)
  if point && precision.isNone then throw (.layout .noPrecision)
  if 1 < text.length then
    throw (.layout (.malformed (String.ofList (description.map Char.ofNat)) type))
  let layout :=
    { layout with plainZero, alternate, width, separator, precision, letter := text.head? }
  checkSeparator layout standard
  return layout

def around (layout : Layout) (left right : Nat) (text : Codes) : Codes :=
  List.replicate left layout.fill ++ text ++ List.replicate right layout.fill

def place (layout : Layout) (text : Codes) : Except Fault Codes :=
  let missing := layout.width.getD 0 - text.length
  if memoryLimit ≤ missing then throw .outOfMemory
  else if layout.align == '>' then pure (layout.around missing 0 text)
  else if layout.align == '^' then pure (layout.around (missing / 2) (missing - missing / 2) text)
  else pure (layout.around 0 missing text)

def groups (size : Nat) (separator : Nat) : Nat → Codes → Int → Codes
  | 0, digits, _ => digits
  | fuel + 1, digits, width =>
    let length := min size (max (max digits.length width.toNat) 1)
    let group := digits.take length
    let group := group ++ List.replicate (length - group.length) '0'.toNat
    let rest := digits.drop length
    let width := width - length
    if rest.isEmpty && width ≤ 0 then group
    else group ++ separator :: groups size separator fuel rest (width - 1)

def groupSize (layout : Layout) : Nat :=
  if layout.letter.any fun code => ['b', 'o', 'x', 'X'].any fun c => c.toNat == code then 4 else 3

def separated (layout : Layout) (digits : Codes) (width : Int) : Codes :=
  match layout.separator with
  | none => List.replicate (width.toNat - digits.length) '0'.toNat ++ digits
  | some separator =>
    (groups layout.groupSize separator.toNat (digits.length + width.toNat + 1) digits.reverse width).reverse

def signFor (layout : Layout) (negative : Bool) : Codes :=
  if negative then ['-'.toNat]
  else if layout.sign == some '+' then ['+'.toNat]
  else if layout.sign == some ' ' then [' '.toNat]
  else []

/-- A number: a sign, the mark of a base, digits, and what follows the digits. Filling goes before or
after all of it, or between the mark and the digits. -/
def number (layout : Layout) (negative : Bool) (mark digits rest : Codes) : Except Fault Codes :=
  let head := layout.signFor negative ++ mark
  let zeros := layout.fill == '0'.toNat && layout.align == '='
  let width : Int := (layout.width.getD 0 : Int) - (head.length + rest.length)
  if (memoryLimit : Int) ≤ width then throw .outOfMemory
  else
    let grouped :=
      if digits.isEmpty then [] else layout.separated digits (if zeros then width else 0)
    let missing := (width - grouped.length).toNat
    if layout.align == '=' then pure (head ++ List.replicate missing layout.fill ++ grouped ++ rest)
    else layout.place (head ++ grouped ++ rest)

end Layout

def layText (type : String) (layout : Layout) (text : Codes) : Except Fault Codes := do
  if layout.letter.any (· != 's'.toNat) then
    throw (.layout (.unknownCode (layout.letter.getD 0) type))
  if layout.sign == some ' ' then throw (.layout .blankOnText)
  if layout.sign.isSome then throw (.layout .signOnText)
  if layout.plainZero then throw (.layout .zeroOnText)
  if layout.alternate then throw (.layout .alternateOnText)
  if layout.align == '=' then throw (.layout .alignmentOnText)
  layout.place ((layout.precision.map fun count => text.take count).getD text)

def baseOf? (letter : Char) : Option (Nat × String × Bool) :=
  match letter with
  | 'b' => some (2, "0b", false)
  | 'o' => some (8, "0o", false)
  | 'x' => some (16, "0x", false)
  | 'X' => some (16, "0X", true)
  | 'd' | 'n' => some (10, "", false)
  | _ => none

def layInteger (layout : Layout) (letter : Char) (n : Int) : Except Fault Codes := do
  if layout.precision.isSome then throw (.layout .precisionOnInteger)
  if layout.plainZero then throw (.layout .zeroOnInteger)
  if letter == 'c' then
    if layout.sign.isSome then throw (.layout .signOnCharacter)
    if layout.alternate then throw (.layout .alternateOnCharacter)
    if !fitsWord n then throw .longTooLarge
    if n < 0 || 0x10FFFF < n then throw .characterRange
    layout.number false [] [] [n.toNat]
  else
    let (base, mark, capital) := (baseOf? letter).getD (10, "", false)
    if base == 10 && Number.tenTo digitLimit ≤ n.natAbs then throw .textOfTooMany
    let digits := Nat.toDigits base n.natAbs
    let digits := if capital then digits.map Char.toUpper else digits
    layout.number (n < 0) (if layout.alternate then codes mark else []) (digits.map Char.toNat) []

/-- A double under a letter of small case, or in the notation that reads back. With a precision that
notation is the general one with a digit after the point. -/
def numeralText (layout : Layout) (letter : Option Char) (x : Float) : String :=
  let general (precision : Nat) : String :=
    match Number.Binary64.ofFloat x with
    | .finite negative significand exponent =>
      (if negative then "-" else "") ++
        pointedText layout.alternate precision significand exponent
    | _ => floatText 'g' false precision x
  match letter, layout.precision with
  | none, none => Number.renderFloat x
  | none, some precision => general precision
  | some letter, precision => floatText letter layout.alternate (precision.getD 6) x

def splitNumber (text : Codes) : Codes × Codes := text.span isDecimalText
where
  isDecimalText (code : Nat) : Bool := '0'.toNat ≤ code && code ≤ '9'.toNat

def showsZero (text : String) : Bool :=
  text.toList.all fun c => !('1' ≤ c && c ≤ '9')

def signedNumeral (layout : Layout) (letter : Option Char) (x : Float) : Bool × Codes :=
  let text := numeralText layout (letter.map Char.toLower) x
  let text := if letter.any Char.isUpper then text.toUpper else text
  let negative := text.startsWith "-"
  let body := (codes text).drop (if negative then 1 else 0)
  (negative && !(layout.plainZero && !x.isInf && showsZero text), body)

def layFloat (layout : Layout) (letter : Option Char) (x : Float) : Except Fault Codes := do
  if layout.precision.any fun precision => Number.twoTo 31 ≤ precision then
    throw (.layout .precisionTooBig)
  let letter := if letter == some 'n' then some 'g' else letter
  let percent := letter == some '%'
  let (negative, body) :=
    signedNumeral layout (if percent then some 'f' else letter) (if percent then x * 100.0 else x)
  let (digits, rest) := splitNumber (body ++ if percent then ['%'.toNat] else [])
  layout.number negative [] digits rest

def layComplex (layout : Layout) (letter : Option Char) (z : Number.Complex) : Except Fault Codes := do
  if layout.fill == '0'.toNat then throw (.layout .zeroPaddingOnComplex)
  if layout.align == '=' then throw (.layout .alignmentOnComplex)
  let letter := if letter == some 'n' then some 'g' else letter
  let onlyImaginary := letter.isNone && z.re.toBits == 0
  let inner : Layout := { layout with width := none, align := '<' }
  let part (layout : Layout) (x : Float) : Except Fault Codes := do
    let (negative, body) := signedNumeral layout letter x
    let body :=
      if letter.isNone && body.drop (body.length - 2) == codes ".0" then body.take (body.length - 2)
      else body
    let (digits, rest) := splitNumber body
    layout.number negative [] digits rest
  let re ← part inner z.re
  let im ← part (if onlyImaginary then inner else { inner with sign := some '+' }) z.im
  let body := (if onlyImaginary then [] else re) ++ im ++ ['j'.toNat]
  layout.place (if letter.isNone && !onlyImaginary then '('.toNat :: body ++ [')'.toNat] else body)

def floatLetters : List Char := ['e', 'E', 'f', 'F', 'g', 'G', 'n', '%']

def layNumber (value : Value) (description : Codes) : Except Fault Codes :=
  let type := value.typeName
  let unknown {α : Type} (letter : Nat) : Except Fault α := throw (.layout (.unknownCode letter type))
  match value with
  | .float x => do
    let layout ← Layout.read type '>' none description
    match layout.letter with
    | none => layFloat layout none x
    | some code =>
      if floatLetters.any fun c => c.toNat == code then layFloat layout (some (Char.ofNat code)) x
      else unknown code
  | .complex z => do
    let layout ← Layout.read type '>' none description
    match layout.letter with
    | none => layComplex layout none z
    | some code =>
      if floatLetters.any fun c => c.toNat == code && c != '%' then
        layComplex layout (some (Char.ofNat code)) z
      else unknown code
  | value => do
    let n := value.integer?.getD 0
    let layout ← Layout.read type '>' (some 'd') description
    let code := layout.letter.getD 'd'.toNat
    let letter := Char.ofNat code
    if letter == 'c' || (baseOf? letter).isSome then layInteger layout letter n
    else if floatLetters.any fun c => c.toNat == code then
      layFloat layout (some letter) (← toFloat (.int n))
    else unknown code

def laidOut (value : Value) (description : Codes) : Eval Codes :=
  if description.isEmpty then shown value
  else
    match value with
    | .text text => do layText "str" (← Layout.read "str" '<' (some 's') description) text
    | .int _ | .truth _ | .float _ | .complex _ => layNumber value description
    | value => throw (.layout (.unsupported value.typeName))

end Workbench.Formula
