import Workbench.Formula.Method.Text
import Workbench.Formula.Spelled
import Workbench.Formula.Template

/-! The methods of integers, doubles and complex numbers. -/

set_option autoImplicit false

namespace Workbench.Formula

open Text (Codes)

namespace NumberMethod

def integerNames : List String :=
  ["as_integer_ratio", "bit_count", "bit_length", "conjugate", "from_bytes", "to_bytes"]

def floatNames : List String := ["as_integer_ratio", "conjugate", "fromhex", "hex", "is_integer"]

def complexNames : List String := ["conjugate"]

def bitLength (n : Nat) : Nat := if n == 0 then 0 else n.log2 + 1

def bitCount : Nat → Nat → Nat
  | 0, _ => 0
  | fuel + 1, n => if n == 0 then 0 else n % 2 + bitCount fuel (n / 2)

def bytesOf : Nat → Nat → Codes
  | 0, _ => []
  | count + 1, n => n % 256 :: bytesOf count (n / 256)

def highFirst : Value → Except Fault Bool
  | .text codes =>
    if codes == Text.codes "big" then pure true
    else if codes == Text.codes "little" then pure false
    else throw .byteOrder
  | value => throw (.misuse (.argument "to_bytes" "argument 'byteorder'" "str" value.typeName))

def toBytes (n : Int) (length : Nat) (high signed : Bool) : Except Fault Codes :=
  if n < 0 && !signed then throw .negativeToBytes
  else
    let bits := if n < 0 then bitLength (-n - 1).toNat + 1 else bitLength n.toNat + if signed then 1 else 0
    if 8 * length < bits && !(n == 0) then throw .bytesTooSmall
    else
      let word := (n.emod (Nat.pow 256 length)).toNat
      let bytes := bytesOf length word
      pure (if high then bytes.reverse else bytes)

def ofBytes (bytes : Codes) (high signed : Bool) : Int :=
  let ordered := if high then bytes else bytes.reverse
  let n : Nat := ordered.foldl (fun value byte => 256 * value + byte) 0
  if signed && ordered.head?.any (128 ≤ ·) then (n : Int) - Nat.pow 256 bytes.length else n

def bytesArgument (machine : Machine) (value : Value) : Eval Codes := do
  match value with
  | .bytes codes => return codes
  | .text _ => throw (.notBytes "str")
  | value =>
    let items ← itemsOf machine .notBytes value
    items.mapM fun item => do
      let n ← wordArgument item
      if 0 ≤ n && n ≤ 255 then return n.toNat else throw .byteValue

def callInteger (machine : Machine) (n : Int) (word : String) (passed : Passed) : Eval Value := do
  let title : Passed.Title := ⟨"int", word⟩
  match word with
  | "as_integer_ratio" =>
    passed.nothing title
    return .tuple [.int n, .int 1]
  | "bit_count" =>
    passed.nothing title
    return .int (bitCount (bitLength n.natAbs) n.natAbs)
  | "bit_length" =>
    passed.nothing title
    return .int (bitLength n.natAbs)
  | "conjugate" =>
    passed.nothing title
    return .int n
  | "to_bytes" =>
    let arguments ← passed.arguments title ["length", "byteorder", "signed"] 0 2
    let length ← ((Passed.pick arguments 0).map wordArgument).getD (pure 1)
    let high ← ((Passed.pick arguments 1).map highFirst).getD (pure true)
    let signed ← ((Passed.pick arguments 2).map isTrue).getD (pure false)
    if length < 0 then throw .negativeLength
    if memoryLimit ≤ length.toNat then throw .outOfMemory
    return .bytes (← toBytes n length.toNat high signed)
  | "from_bytes" =>
    let arguments ← passed.arguments title ["bytes", "byteorder", "signed"] 1 2
    let high ← ((Passed.pick arguments 1).map highFirst).getD (pure true)
    let bytes ← bytesArgument machine ((Passed.pick arguments 0).getD .nothing)
    let signed ← ((Passed.pick arguments 2).map isTrue).getD (pure false)
    return .int (ofBytes bytes high signed)
  | _ => throw (.noAttribute "int" word)

/-- A double as a fraction in lowest terms. -/
def ratioOf (x : Float) : Except Fault (Int × Nat) :=
  match Number.Binary64.ofFloat x with
  | .undefined => throw .undefinedToRatio
  | .infinite _ => throw .infiniteToRatio
  | .finite negative significand exponent =>
    let numerator := significand * Number.twoTo exponent.toNat
    let denominator := Number.twoTo (-exponent).toNat
    let common := Nat.gcd numerator denominator
    let reduced : Int := (numerator / common : Nat)
    pure (if negative then -reduced else reduced, denominator / common)

/-- A double by the digits of its significand in base sixteen and its power of two. -/
def hexFloat (x : Float) : String :=
  match Number.Binary64.ofFloat x with
  | .undefined => "nan"
  | .infinite negative => if negative then "-inf" else "inf"
  | .finite negative significand exponent =>
    let sign := if negative then "-" else ""
    if significand == 0 then sign ++ "0x0.0p+0"
    else
      let lead := significand / Number.twoTo 52
      let digits := String.ofList (Text.hexDigits 13 (significand % Number.twoTo 52))
      let power := exponent + 52
      sign ++ "0x" ++ toString lead ++ "." ++ digits ++ "p" ++ (if power < 0 then "-" else "+") ++
        toString power.natAbs

def ofHexFloat (text : Codes) : Except Fault Float := do
  let trimmed := Text.dropEndWhile BlankCode (text.dropWhile BlankCode)
  let (negative, body) := match trimmed with
    | code :: rest =>
      if code == '-'.toNat then (true, rest)
      else if code == '+'.toNat then (false, rest)
      else (false, trimmed)
    | [] => (false, [])
  let lowered := body.map fun code => if Text.isCapitalAscii code then code + 32 else code
  let signed (x : Float) : Float := if negative then -x else x
  if lowered == Text.codes "inf" || lowered == Text.codes "infinity" then return signed (1.0 / 0.0)
  if lowered == Text.codes "nan" then return 0.0 / 0.0
  let body := if (Text.codes "0x").isPrefixOf lowered then lowered.drop 2 else lowered
  let whole := body.takeWhile hexCode
  let rest := body.drop whole.length
  let (fraction, rest) := match rest with
    | code :: after =>
      if code == '.'.toNat then (after.takeWhile hexCode, after.dropWhile hexCode) else ([], rest)
    | [] => ([], [])
  if whole.isEmpty && fraction.isEmpty then throw .hexFloat
  let exponent ← match rest with
    | [] => pure 0
    | code :: after => do
      if code != 'p'.toNat then throw .hexFloat
      let (minus, digits) := match after with
        | sign :: digits =>
          if sign == '-'.toNat then (true, digits)
          else if sign == '+'.toNat then (false, digits)
          else (false, after)
        | [] => (false, [])
      if digits.isEmpty || !digits.all isDecimalCode then throw .hexFloat
      let power : Int := (ofDigits digits : Nat)
      pure (if minus then -power else power)
  let significand := (whole ++ fraction).foldl (fun value code => 16 * value + hexDigitValue code) 0
  let power : Int := exponent - 4 * fraction.length
  if significand == 0 then return signed 0.0
  if power < -5000 - 4 * (whole.length + fraction.length) then return signed 0.0
  if 5000 < power then throw .hexTooLarge
  match Number.nearest? negative (significand * Number.twoTo power.toNat) (Number.twoTo (-power).toNat) with
  | some x => return x
  | none => throw .hexTooLarge
where
  BlankCode (code : Nat) : Bool := Text.blanks.holds code && code < 0x80
  hexCode (code : Nat) : Bool := isDecimalCode code || ('a'.toNat ≤ code && code ≤ 'f'.toNat)
  hexDigitValue (code : Nat) : Nat :=
    if isDecimalCode code then code - '0'.toNat else code - 'a'.toNat + 10

def callFloat (x : Float) (word : String) (passed : Passed) : Eval Value := do
  let title : Passed.Title := ⟨"float", word⟩
  match word with
  | "as_integer_ratio" =>
    passed.nothing title
    let (numerator, denominator) ← ratioOf x
    return .tuple [.int numerator, .int denominator]
  | "conjugate" =>
    passed.nothing title
    return .float x
  | "hex" =>
    passed.nothing title
    return .text (Text.codes (hexFloat x))
  | "is_integer" =>
    passed.nothing title
    return .truth (!x.isInf && x.floor == x)
  | "fromhex" =>
    match ← passed.single title with
    | .text codes => return .float (← ofHexFloat codes)
    | _ => throw .hexArgument
  | _ => throw (.noAttribute "float" word)

def callComplex (z : Number.Complex) (word : String) (passed : Passed) : Eval Value := do
  match word with
  | "conjugate" =>
    passed.nothing ⟨"complex", word⟩
    return .complex ⟨z.re, -z.im⟩
  | _ => throw (.noAttribute "complex" word)

end NumberMethod

end Workbench.Formula
