import Workbench.Formula.Order

/-! Integers spelled in texts, and the number that a result stands for. -/

set_option autoImplicit false

namespace Workbench.Formula

open Text (Codes)

def underscore : Nat := '_'.toNat

def isDigitCode (code : Nat) : Bool := '0'.toNat ≤ code && code ≤ '9'.toNat

def isSpaceCode (code : Nat) : Bool := code == ' '.toNat || (0x9 ≤ code && code ≤ 0xD)

/-- The plain spelling of a code beyond ASCII: a digit for a digit of any script, a space for a blank;
none for anything else. -/
def plainCode? (code : Nat) : Option Nat :=
  if code < 0x7F then some code
  else if Text.blanks.holds code then some ' '.toNat
  else (Text.decimalValue? code).map ('0'.toNat + ·)

/-- The plain spelling of a text, up to the first code that has none, which a question mark stands
for. A text within ASCII is its own. -/
def plain (text : Codes) : Codes :=
  if text.all (· < 0x80) then text
  else
    let spelled := text.takeWhile fun code => (plainCode? code).isSome
    spelled.filterMap plainCode? ++ if spelled.length == text.length then [] else ['?'.toNat]

structure Numeral where
  negative : Bool
  digits : Codes
  rest : Codes

def underscoresFit (run : Codes) : Bool :=
  run.head? != some underscore && run.getLast? != some underscore &&
    !((run.zip run.tail).any fun (first, second) => first == underscore && second == underscore)

def numeralOf? (text : Codes) : Option Numeral :=
  let start := text.dropWhile isSpaceCode
  let negative := start.head? == some '-'.toNat
  let body := if negative || start.head? == some '+'.toNat then start.tail else start
  let inNumeral (code : Nat) := isDigitCode code || code == underscore
  let run := body.takeWhile inNumeral
  if underscoresFit run then some ⟨negative, run.filter isDigitCode, body.dropWhile inNumeral⟩
  else none

def ofDigits (digits : Codes) : Nat :=
  digits.foldl (fun value digit => 10 * value + (digit - '0'.toNat)) 0

/-- The sign and the digits of the integer that a text spells, with spaces around it. Too many digits
are refused before what follows them is looked at. -/
def spelledInteger (fault : Fault) (text : Codes) : Except Fault (Bool × Codes) :=
  match numeralOf? text with
  | none => throw fault
  | some numeral =>
    if digitLimit < numeral.digits.length then throw (.tooManyDigits numeral.digits.length)
    else if numeral.digits.isEmpty || !(numeral.rest.all isSpaceCode) then throw fault
    else pure (numeral.negative, numeral.digits)

def spelledFloat (negative : Bool) (digits : Codes) : Float :=
  (Number.nearest? negative (ofDigits digits) 1).getD (if negative then -1.0 / 0.0 else 1.0 / 0.0)

def plainDigits? (run : Codes) : Option Codes :=
  if run.isEmpty || underscoresFit run then some (run.filter isDigitCode) else none

def spelledExponent? : Codes → Option Int
  | [] => some 0
  | letter :: rest =>
    if letter == 'e'.toNat || letter == 'E'.toNat then
      let (negative, run) := match rest with
        | sign :: after =>
          if sign == '-'.toNat then (true, after)
          else if sign == '+'.toNat then (false, after)
          else (false, rest)
        | [] => (false, [])
      match plainDigits? run with
      | some (digit :: digits) =>
        if (digit :: digits).length == (run.filter (· != underscore)).length then
          some (if negative then -(ofDigits (digit :: digits) : Int) else ofDigits (digit :: digits))
        else none
      | _ => none
    else none

def spelledDouble? (text : Codes) : Option Float := do
  let trimmed := ((text.dropWhile isSpaceCode).reverse.dropWhile isSpaceCode).reverse
  let (negative, body) := match trimmed with
    | sign :: rest =>
      if sign == '-'.toNat then (true, rest)
      else if sign == '+'.toNat then (false, rest)
      else (false, trimmed)
    | [] => (false, [])
  let signed (x : Float) : Float := if negative then -x else x
  let lowered := body.map fun code => if 'A'.toNat ≤ code && code ≤ 'Z'.toNat then code + 32 else code
  if lowered == Text.codes "inf" || lowered == Text.codes "infinity" then return signed (1.0 / 0.0)
  if lowered == Text.codes "nan" then return signed (0.0 / 0.0)
  let inRun (code : Nat) : Bool := isDigitCode code || code == underscore
  let whole := body.takeWhile inRun
  let (fraction, rest) := match body.dropWhile inRun with
    | point :: after =>
      if point == '.'.toNat then (after.takeWhile inRun, after.dropWhile inRun) else ([], point :: after)
    | [] => ([], [])
  let before ← plainDigits? whole
  let after ← plainDigits? fraction
  if before.isEmpty && after.isEmpty then none
  let exponent ← spelledExponent? rest
  return signed (Number.ofDecimal (ofDigits (before ++ after)) (exponent - after.length))

/-- The number that a result stands for: an integer if it equals one, a double otherwise. A text that
spells an integer differs from it, and so becomes a double. -/
def toNumber : Value → Except Fault Number
  | .int n => pure (.int n)
  | .truth b => pure (.int (if b then 1 else 0))
  | .float x =>
    match Number.Binary64.ofFloat x with
    | .undefined => throw .undefinedToInt
    | .infinite _ => throw .infiniteToInt
    | .finite negative significand exponent =>
      let whole := Number.truncate negative significand exponent
      if compareIntFloat whole x == some .eq then pure (.int whole) else pure (.float x)
  | .text text => do
    let (negative, digits) ← spelledInteger (.notAnInteger text) (plain text)
    return .float (spelledFloat negative digits)
  | .bytes bytes => do
    let (negative, digits) ← spelledInteger (.bytesNotAnInteger bytes) bytes
    return .float (spelledFloat negative digits)
  | value => throw (.notConvertible value.typeName)

end Workbench.Formula
