/-! Doubles as exact numbers: what a double stands for, and the double nearest to a fraction. -/

set_option autoImplicit false

namespace Workbench.Number

def twoTo (exponent : Nat) : Nat := Nat.pow 2 exponent

def tenTo (exponent : Nat) : Nat := Nat.pow 10 exponent

/-- What a double stands for; a finite one is its significand times a power of two. -/
inductive Binary64 where
  | finite (negative : Bool) (significand : Nat) (exponent : Int)
  | infinite (negative : Bool)
  | undefined
  deriving DecidableEq, Repr

namespace Binary64

def ofFloat (x : Float) : Binary64 :=
  let bits := x.toBits.toNat
  let negative := decide (twoTo 63 ≤ bits)
  let biased : Nat := bits / twoTo 52 % twoTo 11
  let fraction := bits % twoTo 52
  if biased == 2047 then
    if fraction == 0 then infinite negative else undefined
  else if biased == 0 then finite negative fraction (-1074)
  else finite negative (fraction + twoTo 52) ((biased : Int) - 1075)

end Binary64

def roundQuotient (numerator denominator : Nat) : Nat :=
  let quotient := numerator / denominator
  let twice := 2 * (numerator % denominator)
  if twice < denominator || (twice == denominator && quotient % 2 == 0) then quotient
  else quotient + 1

def scaleDown (numerator denominator : Nat) (exponent : Int) : Nat × Nat :=
  (numerator * twoTo (-exponent).toNat, denominator * twoTo exponent.toNat)

/-- The exponent at which a fraction has a significand of fifty-three bits, or the least one. -/
def leadingExponent (numerator denominator : Nat) : Int :=
  let guess : Int := max ((numerator.log2 : Int) - denominator.log2 - 53) (-1074)
  let (scaled, unit) := scaleDown numerator denominator guess
  if scaled / unit < twoTo 53 then guess else guess + 1

/-- The double nearest to a fraction with the given sign; none if it is beyond all doubles. -/
def nearest? (negative : Bool) (numerator denominator : Nat) : Option Float :=
  let exponent := leadingExponent numerator denominator
  let (scaled, unit) := scaleDown numerator denominator exponent
  let rounded := roundQuotient scaled unit
  let (significand, exponent) :=
    if rounded == twoTo 53 then (twoTo 52, exponent + 1) else (rounded, exponent)
  let sign := if negative then twoTo 63 else 0
  if exponent > 971 then none
  else if significand < twoTo 52 then some (Float.ofBits (.ofNat (sign + significand)))
  else some (Float.ofBits (.ofNat
    (sign + (exponent + 1075).toNat * twoTo 52 + (significand - twoTo 52))))

def ofInt? (n : Int) : Option Float := nearest? (n < 0) n.natAbs 1

def truncate (negative : Bool) (significand : Nat) (exponent : Int) : Int :=
  let magnitude := significand * twoTo exponent.toNat / twoTo (-exponent).toNat
  if negative then -magnitude else magnitude

def ofDecimal (digits : Nat) (exponent : Int) : Float :=
  let length : Int := (Nat.toDigits 10 digits).length
  if digits == 0 || exponent + length < -330 then 0.0
  else if exponent > 310 then 1.0 / 0.0
  else (nearest? false (digits * tenTo exponent.toNat) (tenTo (-exponent).toNat)).getD (1.0 / 0.0)

end Workbench.Number
