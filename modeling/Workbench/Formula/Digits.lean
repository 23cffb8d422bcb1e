import Workbench.Formula.Value

/-! Doubles as text with a given number of digits. -/

set_option autoImplicit false

namespace Workbench.Formula

def decimalDigits (significand : Nat) (exponent power : Int) : Nat :=
  Number.roundQuotient
    (significand * Number.twoTo exponent.toNat * Number.tenTo (-power).toNat)
    (Number.twoTo (-exponent).toNat * Number.tenTo power.toNat)

def padded (width : Nat) (digits : List Char) : List Char :=
  List.replicate (width - digits.length) '0' ++ digits

/-- Positional, with a given number of digits after the point; `point` keeps a point that nothing
follows. -/
def fixedText (point : Bool) (places significand : Nat) (exponent : Int) : String :=
  let digits := padded (places + 1) (Nat.toDigits 10 (decimalDigits significand exponent (-places)))
  let whole := digits.length - places
  String.ofList (digits.take whole ++ (if places == 0 && !point then [] else ['.']) ++ digits.drop whole)

def leadingDigits (count significand : Nat) (exponent : Int) : List Char × Int :=
  if significand == 0 then (List.replicate count '0', 0)
  else
    let power := Number.leadingPower (significand * Number.twoTo exponent.toNat)
      (Number.twoTo (-exponent).toNat)
    let digits := decimalDigits significand exponent (power - (count - 1 : Nat))
    if digits == Number.tenTo count then ('1' :: List.replicate (count - 1) '0', power + 1)
    else (Nat.toDigits 10 digits, power)

def exponentForm (point : Bool) (digits : List Char) (power : Int) : String :=
  let fraction := digits.drop 1
  String.ofList (digits.take 1 ++ (if fraction.isEmpty && !point then [] else ['.']) ++ fraction) ++
    "e" ++ Number.exponentText power

def dropZeros (digits : List Char) : List Char := (digits.reverse.dropWhile (· == '0')).reverse

/-- The digits of a number in positional notation, from the power of ten of the first; zeros at the end
of the fraction stay only if `point` is kept. -/
def positional (point : Bool) (digits : List Char) (power : Int) : List Char × List Char :=
  let kept (fraction : List Char) := if point then fraction else dropZeros fraction
  if power < 0 then (['0'], kept (List.replicate (-power - 1).toNat '0' ++ digits))
  else (digits.take (power + 1).toNat, kept (digits.drop (power + 1).toNat))

def shortExponentForm (point : Bool) (digits : List Char) (power : Int) : String :=
  exponentForm point (if point then digits else digits.take 1 ++ dropZeros (digits.drop 1)) power

def generalText (point : Bool) (precision significand : Nat) (exponent : Int) : String :=
  let count := max precision 1
  let (digits, power) := leadingDigits count significand exponent
  if power < -4 || (count : Int) ≤ power then shortExponentForm point digits power
  else
    let (whole, fraction) := positional point digits power
    String.ofList (whole ++ (if fraction.isEmpty && !point then [] else ['.']) ++ fraction)

/-- Like the general notation, but with a digit after the point in positional notation. -/
def pointedText (point : Bool) (precision significand : Nat) (exponent : Int) : String :=
  let count := max precision 1
  let (digits, power) := leadingDigits count significand exponent
  if power < -4 || (count : Int) - 1 ≤ power then shortExponentForm point digits power
  else
    let (whole, fraction) := positional point digits power
    String.ofList (whole ++ ['.'] ++ if fraction.isEmpty then ['0'] else fraction)

def floatText (letter : Char) (point : Bool) (precision : Nat) (x : Float) : String :=
  match Number.Binary64.ofFloat x with
  | .undefined => "nan"
  | .infinite negative => if negative then "-inf" else "inf"
  | .finite negative significand exponent =>
    let text :=
      if letter == 'f' then fixedText point precision significand exponent
      else if letter == 'e' then
        let (digits, power) := leadingDigits (precision + 1) significand exponent
        exponentForm point digits power
      else generalText point precision significand exponent
    if negative then "-" ++ text else text

end Workbench.Formula
