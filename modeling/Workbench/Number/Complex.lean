import Workbench.Number.Binary64

/-! Complex numbers with doubles for parts. -/

set_option autoImplicit false

namespace Workbench.Number

structure Complex where
  re : Float
  im : Float

namespace Complex

def ofFloat (x : Float) : Complex := ⟨x, 0.0⟩

def isZero (z : Complex) : Bool := z.re == 0.0 && z.im == 0.0

def same (z w : Complex) : Bool := z.re == w.re && z.im == w.im

def isInfinite (z : Complex) : Bool := z.re.isInf || z.im.isInf

def neg (z : Complex) : Complex := ⟨-z.re, -z.im⟩

def add (z w : Complex) : Complex := ⟨z.re + w.re, z.im + w.im⟩

def sub (z w : Complex) : Complex := ⟨z.re - w.re, z.im - w.im⟩

def mul (z w : Complex) : Complex :=
  ⟨z.re * w.re - z.im * w.im, z.re * w.im + z.im * w.re⟩

/-- The quotient, by way of the ratio of the smaller part of the divisor to the larger one; none if
the divisor is zero. -/
def div? (z w : Complex) : Option Complex :=
  if w.im.abs ≤ w.re.abs then
    if w.re.abs == 0.0 then none
    else
      let ratio := w.im / w.re
      let denominator := w.re + w.im * ratio
      some ⟨(z.re + z.im * ratio) / denominator, (z.im - z.re * ratio) / denominator⟩
  else if w.re.abs ≤ w.im.abs then
    let ratio := w.re / w.im
    let denominator := w.re * ratio + w.im
    some ⟨(z.re * ratio + z.im) / denominator, (z.im * ratio - z.re) / denominator⟩
  else
    some ⟨0.0 / 0.0, 0.0 / 0.0⟩

/-- The product of the squarings of `square` that the bits of `n` select, times `product`; `bits`
bounds the number of bits. -/
def powerBits : Nat → Nat → Complex → Complex → Complex
  | 0, _, product, _ => product
  | bits + 1, n, product, square =>
    if n == 0 then product
    else powerBits bits (n / 2) (if n % 2 == 1 then product.mul square else product) (square.mul square)

def powerNat (z : Complex) (n : Nat) : Complex := powerBits (n + 1) n ⟨1.0, 0.0⟩ z

/-- The distance from zero; the larger part is taken out so that no square overflows. -/
def magnitude (z : Complex) : Float :=
  let larger := if z.re.abs < z.im.abs then z.im.abs else z.re.abs
  let smaller := if z.re.abs < z.im.abs then z.re.abs else z.im.abs
  if smaller == 0.0 then larger
  else larger * (1.0 + smaller / larger * (smaller / larger)).sqrt

def powerPolar? (z w : Complex) : Option Complex :=
  if w.isZero then some ⟨1.0, 0.0⟩
  else if z.isZero then
    if w.im != 0.0 || w.re < 0.0 then none else some ⟨0.0, 0.0⟩
  else
    let magnitude := z.magnitude
    let angle := Float.atan2 z.im z.re
    let length := magnitude.pow w.re
    let phase := angle * w.re
    let (length, phase) :=
      if w.im != 0.0 then
        (length / (angle * w.im).exp, phase + w.im * magnitude.log)
      else (length, phase)
    some ⟨length * phase.cos, length * phase.sin⟩

def power? (z w : Complex) : Option Complex :=
  if w.im == 0.0 && w.re == w.re.floor && w.re.abs ≤ 100.0 then
    let product := z.powerNat w.re.abs.toUInt64.toNat
    if 0.0 < w.re then some product else div? ⟨1.0, 0.0⟩ product
  else powerPolar? z w

end Complex

end Workbench.Number
