import Workbench.Formula.World

/-! Comparing values: by size, by being equal, by being one and the same. -/

set_option autoImplicit false

namespace Workbench.Formula

open Text (Codes)

def compareIntFloat (n : Int) (x : Float) : Option Ordering :=
  match Number.Binary64.ofFloat x with
  | .undefined => none
  | .infinite negative => some (if negative then .gt else .lt)
  | .finite negative significand exponent =>
    let magnitude : Int := (significand * Number.twoTo exponent.toNat : Nat)
    some (compare (n * Number.twoTo (-exponent).toNat) (if negative then -magnitude else magnitude))

def compareFloats (x y : Float) : Option Ordering :=
  if x < y then some .lt
  else if y < x then some .gt
  else if x == y then some .eq
  else none

def compareNumbers : Number → Number → Option Ordering
  | .int m, .int n => some (compare m n)
  | .int m, .float y => compareIntFloat m y
  | .float x, .int n => (compareIntFloat n x).map Ordering.swap
  | .float x, .float y => compareFloats x y

def Comparison.holds (comparison : Comparison) (order : Option Ordering) : Bool :=
  match comparison with
  | lt => order == some .lt
  | le => order == some .lt || order == some .eq
  | gt => order == some .gt
  | ge => order == some .gt || order == some .eq
  | eq | isIn | being => order == some .eq
  | ne | notIn | notBeing => order != some .eq

def compareTexts : Codes → Codes → Ordering
  | [], [] => .eq
  | [], _ :: _ => .lt
  | _ :: _, [] => .gt
  | c :: cs, d :: ds => (compare c d).then (compareTexts cs ds)

/-- Whether two values that are no sequences of values are equal: numbers by value, texts by their
codes, and whatever has a place by that place. -/
def Value.sameSimple : Value → Value → Bool
  | .text cs, .text ds => cs == ds
  | .bytes cs, .bytes ds => cs == ds
  | .nothing, .nothing => true
  | .ellipsis, .ellipsis => true
  | .unsupported, .unsupported => true
  | .type v, .type w => v == w
  | .list p, .list q | .set p, .set q | .mapping p, .mapping q => p == q
  | .function p, .function q | .generator p, .generator q => p == q
  | .iterator _ p, .iterator _ q | .object _ p, .object _ q => p == q
  | .view v p, .view w q => v == w && p == q
  | .complex z, .complex w => z.same w
  | .complex z, y =>
    match y.number? with
    | some n => z.im == 0.0 && compareNumbers (.float z.re) n == some .eq
    | none => false
  | x, .complex w =>
    match x.number? with
    | some m => w.im == 0.0 && compareNumbers (.float w.re) m == some .eq
    | none => false
  | x, y =>
    match x.number?, y.number? with
    | some m, some n => compareNumbers m n == some .eq
    | _, _ => false

mutual

/-- Whether two values are equal as keys: tuples item by item, everything else on its own. -/
def Value.same : Value → Value → Bool
  | .tuple xs, .tuple ys => sameAll xs ys
  | .slice a b c, .slice d e f => a.same d && b.same e && c.same f
  | .method x v, .method y w => v == w && x.same y
  | x, y => x.sameSimple y

def sameAll : List Value → List Value → Bool
  | [], [] => true
  | x :: xs, y :: ys => x.same y && sameAll xs ys
  | _, _ => false

end

mutual

/-- Whether two values are one: of one type, and not to be told apart. -/
def Value.identical : Value → Value → Bool
  | .int m, .int n => m == n
  | .float x, .float y => x == y && x.toBits == y.toBits
  | .truth b, .truth c => b == c
  | .tuple xs, .tuple ys => identicalAll xs ys
  | .complex z, .complex w =>
    z.same w && z.re.toBits == w.re.toBits && z.im.toBits == w.im.toBits
  | .slice .., .slice .. => false
  | .method .., .method .. => false
  | .view .., .view .. => false
  | x, y => x.number?.isNone && y.number?.isNone && x.sameSimple y

def identicalAll : List Value → List Value → Bool
  | [], [] => true
  | x :: xs, y :: ys => x.identical y && identicalAll xs ys
  | _, _ => false

end

def agreeAll (agree : Value → Value → Eval Bool) : List Value → List Value → Eval Bool
  | [], [] => pure true
  | x :: xs, y :: ys => do if ← agree x y then agreeAll agree xs ys else return false
  | _, _ => pure false

def entryOf? (key : Value) (entries : List (Value × Value)) : Option Value :=
  (entries.find? fun entry => entry.1.same key).map Prod.snd

def agreeEntries (agree : Value → Value → Eval Bool) (others : List (Value × Value)) :
    List (Value × Value) → Eval Bool
  | [] => pure true
  | (key, value) :: rest =>
    match entryOf? key others with
    | none => pure false
    | some other => do if ← agree value other then agreeEntries agree others rest else return false

def within (part whole : List Value) : Bool := part.all fun x => whole.any fun y => y.same x

def keysOf? : Value → Eval (Option (List Value))
  | .set place => return some (← setAt place).toList
  | .view .keys place => return some ((← mappingAt place).map Prod.fst)
  | .view .entries place =>
    return some ((← mappingAt place).map fun (key, value) => .tuple [key, value])
  | _ => pure none

/-- Whether two values are equal, with what they hold. `depth` bounds how far they nest. -/
def equal : Nat → Value → Value → Eval Bool
  | 0, _, _ => throw .comparisonTooDeep
  | depth + 1, x, y =>
    match x, y with
    | .tuple xs, .tuple ys => agreeAll (equal depth) xs ys
    | .list p, .list q => do
      if p == q then return true
      let xs ← listAt p
      let ys ← listAt q
      if xs.length == ys.length then agreeAll (equal depth) xs ys else return false
    | .mapping p, .mapping q => do
      if p == q then return true
      let xs ← mappingAt p
      let ys ← mappingAt q
      if xs.length == ys.length then agreeEntries (equal depth) ys xs else return false
    | .slice a b c, .slice d e f => agreeAll (equal depth) [a, b, c] [d, e, f]
    | x, y => do
      match ← keysOf? x, ← keysOf? y with
      | some xs, some ys => return xs.length == ys.length && within xs ys
      | _, _ => return x.same y

def comparisonDepth : Nat := 990

def equals (x y : Value) : Eval Bool := equal comparisonDepth x y

def firstDifference (agree : Value → Value → Eval Bool) :
    List Value → List Value → Eval (Ordering ⊕ Value × Value)
  | [], [] => pure (.inl .eq)
  | [], _ :: _ => pure (.inl .lt)
  | _ :: _, [] => pure (.inl .gt)
  | x :: xs, y :: ys => do
    if ← agree x y then firstDifference agree xs ys else return .inr (x, y)

def Comparison.holdsWithin (comparison : Comparison) (xs ys : List Value) : Bool :=
  match comparison with
  | lt => xs.length < ys.length && within xs ys
  | le => xs.length ≤ ys.length && within xs ys
  | gt => ys.length < xs.length && within ys xs
  | _ => ys.length ≤ xs.length && within ys xs

/-- An order question between values; sequences are decided by the first items that differ, sets by
being part of each other. `depth` bounds how far they nest. -/
def Comparison.decide (comparison : Comparison) : Nat → Value → Value → Eval Bool
  | 0, _, _ => throw .comparisonTooDeep
  | depth + 1, x, y => do
    let decideAll (xs ys : List Value) : Eval Bool := do
      match ← firstDifference (equal depth) xs ys with
      | .inl order => return comparison.holds (some order)
      | .inr (x, y) => comparison.decide depth x y
    match x, y with
    | .text cs, .text ds => return comparison.holds (some (compareTexts cs ds))
    | .bytes cs, .bytes ds => return comparison.holds (some (compareTexts cs ds))
    | .tuple xs, .tuple ys => decideAll xs ys
    | .list p, .list q => decideAll (← listAt p) (← listAt q)
    | .slice a b c, .slice d e f => decideAll [a, b, c] [d, e, f]
    | x, y =>
      match x.number?, y.number? with
      | some m, some n => return comparison.holds (compareNumbers m n)
      | _, _ =>
        match ← keysOf? x, ← keysOf? y with
        | some xs, some ys => return comparison.holdsWithin xs ys
        | _, _ => throw (.order comparison x.typeName y.typeName)

def occursIn {α : Type} [BEq α] (part : List α) : List α → Bool
  | [] => part.isEmpty
  | c :: rest => part.isPrefixOf (c :: rest) || occursIn part rest

def anyEquals (x : Value) : List Value → Eval Bool
  | [] => pure false
  | item :: rest => do if ← equals item x then return true else anyEquals x rest

end Workbench.Formula
