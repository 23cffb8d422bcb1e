import Workbench.Number.Binary64

/-! Decimal text of numbers. A double is written with the fewest digits that read back as the same
double, and of those with the digits nearest to it. -/

set_option autoImplicit false

namespace Workbench.Number

structure Decimal where
  digits : Nat
  exponent : Int
  deriving DecidableEq, Repr

def digitCount (n : Nat) : Nat := (Nat.toDigits 10 n).length

def leadingPower (numerator denominator : Nat) : Int :=
  if denominator ≤ numerator then (digitCount (numerator / denominator) : Int) - 1
  else
    let count := digitCount (denominator / numerator)
    if denominator == numerator * tenTo (count - 1) then 1 - (count : Int) else -(count : Int)

/-- The reals that read as one double, in units of a quarter of its last place. -/
structure Interval where
  low : Nat
  middle : Nat
  high : Nat
  closed : Bool
  exponent : Int

/-- Below a power of two the doubles are twice as dense. -/
def Interval.around (significand : Nat) (exponent : Int) : Interval where
  low := 4 * significand - (if significand == twoTo 52 && exponent > -1074 then 1 else 2)
  middle := 4 * significand
  high := 4 * significand + 2
  closed := significand % 2 == 0
  exponent := exponent - 2

namespace Interval

def scale (interval : Interval) (decimal : Decimal) (multiple : Nat) : Nat × Nat :=
  (decimal.digits * tenTo decimal.exponent.toNat * twoTo (-interval.exponent).toNat,
   multiple * twoTo interval.exponent.toNat * tenTo (-decimal.exponent).toNat)

def contains (interval : Interval) (decimal : Decimal) : Bool :=
  let (value, low) := interval.scale decimal interval.low
  let (_, high) := interval.scale decimal interval.high
  if interval.closed then low ≤ value && value ≤ high else low < value && value < high

/-- Twice the distance from the middle, comparable between decimals of one exponent. -/
def distance (interval : Interval) (decimal : Decimal) : Nat :=
  let (value, middle) := interval.scale decimal interval.middle
  (value - middle) + (middle - value)

def below (interval : Interval) (power : Int) : Decimal :=
  let (unit, middle) := interval.scale ⟨1, power⟩ interval.middle
  ⟨middle / unit, power⟩

def nearest? (interval : Interval) (power : Int) : Option Decimal :=
  let lower := interval.below power
  let upper : Decimal := ⟨lower.digits + 1, power⟩
  let preferUpper := interval.distance upper < interval.distance lower ||
    (interval.distance upper == interval.distance lower && lower.digits % 2 == 1)
  let (first, second) := if preferUpper then (upper, lower) else (lower, upper)
  if interval.contains first then some first
  else if interval.contains second then some second
  else none

end Interval

def Decimal.reduce : Nat → Decimal → Decimal
  | 0, decimal => decimal
  | fuel + 1, decimal =>
    if decimal.digits % 10 == 0 && decimal.digits != 0 then
      reduce fuel ⟨decimal.digits / 10, decimal.exponent + 1⟩
    else decimal

def shortest (significand : Nat) (exponent : Int) : Decimal :=
  let interval := Interval.around significand exponent
  let power := leadingPower (significand * twoTo exponent.toNat) (twoTo (-exponent).toNat)
  let found := (List.range 17).findSome? fun (count : Nat) => interval.nearest? (power - count)
  (found.getD (interval.below (power - 17))).reduce 20

def exponentText (exponent : Int) : String :=
  let digits := toString exponent.natAbs
  (if exponent < 0 then "-" else "+") ++ (if digits.length < 2 then "0" ++ digits else digits)

/-- Positional from one ten-thousandth up to ten to the sixteenth, with at least one digit after the
point; beyond that with an exponent. -/
def Decimal.render (decimal : Decimal) : String :=
  let digits := Nat.toDigits 10 decimal.digits
  let leading : Int := decimal.exponent + digits.length - 1
  if leading < -4 || 16 ≤ leading then
    match digits with
    | [] => ""
    | first :: rest =>
      String.ofList (first :: (if rest.isEmpty then [] else '.' :: rest)) ++ "e" ++
        exponentText leading
  else if leading < 0 then
    "0." ++ String.ofList (List.replicate (-leading - 1).toNat '0' ++ digits)
  else
    let whole := (leading + 1).toNat
    let padded := digits ++ List.replicate (whole - digits.length) '0'
    let fraction := padded.drop whole
    String.ofList (padded.take whole) ++ "." ++
      (if fraction.isEmpty then "0" else String.ofList fraction)

def renderFloat (x : Float) : String :=
  match Binary64.ofFloat x with
  | .undefined => "nan"
  | .infinite negative => if negative then "-inf" else "inf"
  | .finite negative significand exponent =>
    (if negative then "-" else "") ++
      (if significand == 0 then "0.0" else (shortest significand exponent).render)

end Workbench.Number
