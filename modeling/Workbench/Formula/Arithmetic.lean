import Workbench.Formula.Order
import Workbench.Formula.Template

/-! Arithmetic on values. Two integers give an integer except under division and negative powers; a
double on either side makes the computation one of doubles. -/

set_option autoImplicit false

namespace Workbench.Formula

def divideInts (m n : Int) : Except Fault Float :=
  if n == 0 then throw .intDivision
  else match Number.nearest? (decide (m < 0) != decide (n < 0)) m.natAbs n.natAbs with
    | some x => pure x
    | none => throw .quotientTooLarge

/-- The remainder of two doubles towards zero. It is exact: no rounding takes place. -/
def truncatedRemainder (x y : Float) : Float :=
  match Number.Binary64.ofFloat x, Number.Binary64.ofFloat y with
  | .finite negative m p, .finite _ n q =>
    let exponent := min p q
    let remainder := m * Number.twoTo (p - exponent).toNat % (n * Number.twoTo (q - exponent).toNat)
    (Number.nearest? negative (remainder * Number.twoTo exponent.toNat) (Number.twoTo (-exponent).toNat)).getD x
  | .finite .., .infinite _ => x
  | _, _ => 0.0 / 0.0

def withSignOf (magnitude sign : Float) : Float :=
  if Number.twoTo 63 ≤ sign.toBits.toNat then -magnitude else magnitude

def floorRemainder (x y : Float) : Float :=
  let remainder := truncatedRemainder x y
  if remainder == 0.0 then withSignOf 0.0 y
  else if decide (y < 0.0) != decide (remainder < 0.0) then remainder + y
  else remainder

/-- The quotient rounded down, computed from the remainder so that the two agree. -/
def floorQuotient (x y : Float) : Float :=
  let remainder := truncatedRemainder x y
  let quotient := (x - remainder) / y
  let adjusted :=
    if remainder != 0.0 && decide (y < 0.0) != decide (remainder < 0.0) then quotient - 1.0
    else quotient
  if adjusted == 0.0 then withSignOf 0.0 (x / y)
  else
    let floor := adjusted.floor
    if adjusted - floor > 0.5 then floor + 1.0 else floor

def isWhole (x : Float) : Bool := x.floor == x

def isOddWhole (x : Float) : Bool := truncatedRemainder x.abs 2.0 == 1.0

def powerComplex (z w : Number.Complex) : Except Fault Value :=
  match z.power? w with
  | none => throw .zeroToComplex
  | some power => if power.isInfinite then throw .complexTooLarge else pure (.complex power)

def powerPositive (negate : Bool) (x y : Float) : Except Fault Value :=
  let power := Float.pow x y
  if power.isInf then throw .powerTooLarge else pure (.float (if negate then -power else power))

/-- A power of doubles. What is infinite or undefined is settled before a power is computed, the sign
of a negative base is kept apart, and a fractional power of it is complex. -/
def powerFloats (x y : Float) : Except Fault Value :=
  if y == 0.0 then pure (.float 1.0)
  else if x.isNaN then pure (.float x)
  else if y.isNaN then pure (.float (if x == 1.0 then 1.0 else y))
  else if y.isInf then
    if x.abs == 1.0 then pure (.float 1.0)
    else if decide (0.0 < y) == decide (1.0 < x.abs) then pure (.float y.abs)
    else pure (.float 0.0)
  else if x.isInf then
    if 0.0 < y then pure (.float (if isOddWhole y then x else x.abs))
    else pure (.float (if isOddWhole y then withSignOf 0.0 x else 0.0))
  else if x == 0.0 then
    if y < 0.0 then throw .zeroToNegative
    else pure (.float (if isOddWhole y then x else 0.0))
  else if x < 0.0 then
    if !isWhole y then powerComplex (.ofFloat x) (.ofFloat y)
    else if x == -1.0 then pure (.float (if isOddWhole y then -1.0 else 1.0))
    else powerPositive (isOddWhole y) (-x) y
  else if x == 1.0 then pure (.float 1.0)
  else powerPositive false x y

/-- A power with an exponent that is not negative. Powers of zero, one and minus one do not depend on
the size of the exponent. -/
def powerInts (m : Int) (n : Nat) : Int :=
  if m == 0 || m == 1 then (if n == 0 then 1 else m)
  else if m == -1 then (if n % 2 == 0 then 1 else -1)
  else if m < 0 && n % 2 == 1 then -(Nat.pow m.natAbs n : Int)
  else (Nat.pow m.natAbs n : Int)

/-- Both integers as two's complement numbers, combined bit by bit. A negative number is the
complement of one that is not; `combine` gives the bit for two bits. -/
def combineBits (combine : Bool → Bool → Bool) (m n : Int) : Int :=
  let bits (k : Int) : Nat := if k < 0 then (-k - 1).toNat else k.toNat
  let flips (k : Int) (b : Bool) : Bool := if k < 0 then !b else b
  let negative := combine (decide (m < 0)) (decide (n < 0))
  let combined := Nat.bitwise (fun b c =>
    let bit := combine (flips m b) (flips n c)
    if negative then !bit else bit) (bits m) (bits n)
  if negative then -(combined : Int) - 1 else combined

def shiftLeft (m n : Int) : Except Fault Int :=
  if n < 0 then throw .negativeShift
  else if m == 0 then pure 0
  else if !fitsWord n then throw .tooManyBits
  else if memoryLimit ≤ n.toNat then throw .outOfMemory
  else pure (m * Number.twoTo n.toNat)

def shiftRight (m n : Int) : Except Fault Int :=
  if n < 0 then throw .negativeShift
  else if m.natAbs.log2 < n.toNat then pure (if m < 0 then -1 else 0)
  else pure (m.fdiv (Number.twoTo n.toNat))

def computeInts (operator : Operator) (m n : Int) : Except Fault Value :=
  match operator with
  | .add => pure (.int (m + n))
  | .sub => pure (.int (m - n))
  | .mul => pure (.int (m * n))
  | .div => return .float (← divideInts m n)
  | .floorDiv => if n == 0 then throw .intFloorDivision else pure (.int (m.fdiv n))
  | .mod => if n == 0 then throw .intModulo else pure (.int (m.fmod n))
  | .pow =>
    if n < 0 then do powerFloats (← toFloat (.int m)) (← toFloat (.int n))
    else pure (.int (powerInts m n.toNat))
  | .bitOr => pure (.int (combineBits (· || ·) m n))
  | .bitXor => pure (.int (combineBits (· != ·) m n))
  | .bitAnd => pure (.int (combineBits (· && ·) m n))
  | .shiftLeft => return .int (← shiftLeft m n)
  | .shiftRight => return .int (← shiftRight m n)
  | .matrixMul => throw (.operands operator "int" "int")

def computeFloats (operator : Operator) (x y : Float) : Except Fault Value :=
  match operator with
  | .add => pure (.float (x + y))
  | .sub => pure (.float (x - y))
  | .mul => pure (.float (x * y))
  | .div => if y == 0.0 then throw .floatDivision else pure (.float (x / y))
  | .floorDiv => if y == 0.0 then throw .floatFloorDivision else pure (.float (floorQuotient x y))
  | .mod => if y == 0.0 then throw .floatModulo else pure (.float (floorRemainder x y))
  | .pow => powerFloats x y
  | operator => throw (.operands operator "float" "float")

def computeComplexes (operator : Operator) (z w : Number.Complex) : Except Fault Value :=
  match operator with
  | .add => pure (.complex (z.add w))
  | .sub => pure (.complex (z.sub w))
  | .mul => pure (.complex (z.mul w))
  | .div => ((z.div? w).map fun quotient => pure (.complex quotient)).getD (throw .complexDivision)
  | .pow => powerComplex z w
  | operator => throw (.operands operator "complex" "complex")

def Operator.isBitwise : Operator → Bool
  | .bitOr | .bitXor | .bitAnd | .shiftLeft | .shiftRight | .matrixMul => true
  | _ => false

def Operator.isField : Operator → Bool
  | .add | .sub | .mul | .div | .pow => true
  | _ => false

def Operator.onTruths? : Operator → Option (Bool → Bool → Bool)
  | .bitOr => some (· || ·)
  | .bitXor => some (· != ·)
  | .bitAnd => some (· && ·)
  | _ => none

/-- The complex number that a value counts as, whose parts must be held by doubles. -/
def toComplex? : Value → Option (Except Fault Number.Complex)
  | .complex z => some (pure z)
  | value => value.number?.map fun n => return .ofFloat (← toFloat n)

/-- A sequence repeated as often as an integer says, and not at all if that is negative. The count
has to fit into a machine word, and so does the length of the result. -/
def repeated {α : Type} (tooLong : Fault) (items : List α) (count : Value) :
    Except Fault (List α) :=
  match count.integer? with
  | none => throw (.repetition count.typeName)
  | some n =>
    if !fitsWord n then throw .countTooLarge
    else if items.isEmpty || n ≤ 0 then pure []
    else if n == 1 then pure items
    else if !fitsWord (n * items.length) then throw tooLong
    else if memoryLimit ≤ n.toNat * items.length then throw .outOfMemory
    else pure (List.replicate n.toNat items).flatten

/-- The members that two sets have together under an operator: those of either, of both, of the first
alone, or of one alone. -/
def combineSets (operator : Operator) (xs ys : Members) : Option Members :=
  let start : Members := {}
  match operator with
  | .bitOr => some ((start.merge xs).merge ys)
  | .bitAnd =>
    let (larger, smaller) :=
      if xs.toList.length < ys.toList.length then (ys, xs) else (xs, ys)
    some (.ofList (smaller.toList.filter larger.contains))
  | .sub => some (.ofList (xs.toList.filter fun x => !ys.contains x))
  | .bitXor => some (xs.toList.foldl
      (fun members x => if members.contains x then members.remove x else members.add x)
      (start.merge ys))
  | _ => none

def membersOf? : Value → Eval (Option Members)
  | .set place => return some (← setAt place)
  | value => return (← keysOf? value).map Members.ofList

def computeCollections (operator : Operator) (x y : Value) : Eval Value := do
  match operator, x, y with
  | .bitOr, .mapping p, .mapping q =>
    newMapping ((← mappingAt q).foldl (fun entries (key, value) => putEntry key value entries)
      (← mappingAt p))
  | operator, x, y =>
    match ← membersOf? x, ← membersOf? y with
    | some xs, some ys =>
      match combineSets operator xs ys with
      | some members => newSet members
      | none => throw (.operands operator x.typeName y.typeName)
    | _, _ => throw (.operands operator x.typeName y.typeName)

def computeOthers (operator : Operator) (x y : Value) : Eval Value :=
  match operator, x, y with
  | .add, .text cs, .text ds => pure (.text (cs ++ ds))
  | .add, .bytes cs, .bytes ds => pure (.bytes (cs ++ ds))
  | .add, .tuple xs, .tuple ys => pure (.tuple (xs ++ ys))
  | .add, .list p, .list q => do newList ((← listAt p) ++ (← listAt q))
  | .add, .text _, y => throw (.concatenation "str" y.typeName)
  | .add, .bytes _, y => throw (.bytesConcatenation y.typeName)
  | .add, .tuple _, y => throw (.concatenation "tuple" y.typeName)
  | .add, .list _, y => throw (.concatenation "list" y.typeName)
  | .mul, .text cs, y => return .text (← repeated .textTooLong cs y)
  | .mul, .bytes cs, y => return .bytes (← repeated .bytesTooLong cs y)
  | .mul, .tuple xs, y => return .tuple (← repeated .outOfMemory xs y)
  | .mul, .list p, y => do newList (← repeated .outOfMemory (← listAt p) y)
  | .mul, x, .text ds => return .text (← repeated .textTooLong ds x)
  | .mul, x, .bytes ds => return .bytes (← repeated .bytesTooLong ds x)
  | .mul, x, .tuple ys => return .tuple (← repeated .outOfMemory ys x)
  | .mul, x, .list q => do newList (← repeated .outOfMemory (← listAt q) x)
  | .mod, .text cs, y => return .text (← fillTemplate false cs y)
  | .mod, .bytes cs, y => return .bytes (← fillTemplate true cs y)
  | operator, x, y => computeCollections operator x y

def computeMixed (operator : Operator) (x y : Value) : Eval Value :=
  match toComplex? x, toComplex? y with
  | some z, some w =>
    if operator.isField then do
      let z ← z
      let w ← w
      computeComplexes operator z w
    else throw (.operands operator x.typeName y.typeName)
  | _, _ => computeOthers operator x y

def computeReals (operator : Operator) (x y : Value) : Eval Value :=
  match x.number?, y.number? with
  | some (.int m), some (.int n) =>
    if operator == .matrixMul then throw (.operands operator x.typeName y.typeName)
    else computeInts operator m n
  | some m, some n =>
    if operator.isBitwise then throw (.operands operator x.typeName y.typeName)
    else do computeFloats operator (← toFloat m) (← toFloat n)
  | _, _ => computeMixed operator x y

def compute (operator : Operator) (x y : Value) : Eval Value :=
  match x, y, operator.onTruths? with
  | .truth b, .truth c, some combine => pure (.truth (combine b c))
  | _, _, _ => computeReals operator x y

def applySign (sign : Sign) (value : Value) : Except Fault Value :=
  match sign, value, value.integer? with
  | .plus, _, some n => pure (.int n)
  | .minus, _, some n => pure (.int (-n))
  | .invert, _, some n => pure (.int (-n - 1))
  | .plus, .float x, _ => pure (.float x)
  | .minus, .float x, _ => pure (.float (-x))
  | .plus, .complex z, _ => pure (.complex z)
  | .minus, .complex z, _ => pure (.complex z.neg)
  | sign, value, _ => throw (.signed sign value.typeName)

end Workbench.Formula
