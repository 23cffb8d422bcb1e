import Workbench.Formula.Method.Text

/-! The methods of byte strings. Only the letters, digits and blanks of ASCII count as such. -/

set_option autoImplicit false

namespace Workbench.Formula

open Text (Codes)

namespace BytesMethod

def isDigit (code : Nat) : Bool := '0'.toNat ≤ code && code ≤ '9'.toNat

def isLetter (code : Nat) : Bool := Text.isSmallAscii code || Text.isCapitalAscii code

def isBlank (code : Nat) : Bool := code == ' '.toNat || (0x9 ≤ code && code ≤ 0xD)

def lower (code : Nat) : Nat := if Text.isCapitalAscii code then code + 32 else code

def upper (code : Nat) : Nat := if Text.isSmallAscii code then code - 32 else code

def swapped (code : Nat) : Nat := if isLetter code then Nat.xor code 32 else code

def titled : Bool → Codes → Codes
  | _, [] => []
  | inside, code :: rest => (if inside then lower code else upper code) :: titled (isLetter code) rest

def question? (word : String) (codes : Codes) : Option Bool :=
  match word with
  | "isalnum" => some (allOfSome (fun code => isLetter code || isDigit code) codes)
  | "isalpha" => some (allOfSome isLetter codes)
  | "isascii" => some (codes.all (· < 0x80))
  | "isdigit" => some (allOfSome isDigit codes)
  | "islower" => some (allCased Text.isSmallAscii Text.isCapitalAscii codes)
  | "isspace" => some (allOfSome isBlank codes)
  | "istitle" =>
    some (TextMethod.isTitled false false (codes.map fun code => if isLetter code then code else 0))
  | "isupper" => some (allCased Text.isCapitalAscii Text.isSmallAscii codes)
  | _ => none

def change? (word : String) (codes : Codes) : Option Codes :=
  match word with
  | "capitalize" => some ((codes.take 1).map upper ++ (codes.drop 1).map lower)
  | "lower" => some (codes.map lower)
  | "swapcase" => some (codes.map swapped)
  | "title" => some (titled false codes)
  | "upper" => some (codes.map upper)
  | _ => none

def names : List String :=
  ["capitalize", "center", "count", "decode", "endswith", "expandtabs", "find", "fromhex", "hex",
   "index", "isalnum", "isalpha", "isascii", "isdigit", "islower", "isspace", "istitle", "isupper",
   "join", "ljust", "lower", "lstrip", "maketrans", "partition", "removeprefix", "removesuffix",
   "replace", "rfind", "rindex", "rjust", "rpartition", "rsplit", "rstrip", "split", "splitlines",
   "startswith", "strip", "swapcase", "title", "translate", "upper", "zfill"]

def required : Value → Except Fault Codes
  | .bytes codes => pure codes
  | value => throw (.bytesMember value.typeName)

def partArgument : Value → Except Fault Codes
  | .bytes codes => pure codes
  | value =>
    match value.integer? with
    | some n => if 0 ≤ n && n ≤ 255 then pure [n.toNat] else throw .byteRange
    | none => throw (.byteOrBytesNeeded value.typeName)

def fillArgument (method : String) : Option Value → Except Fault Nat
  | none => pure ' '.toNat
  | some (.bytes [code]) => pure code
  | some value => throw (.byteFill method value.typeName)

def joinable : Nat → List Value → Except Fault (List Codes)
  | _, [] => pure []
  | index, .bytes codes :: rest => return codes :: (← joinable (index + 1) rest)
  | index, value :: _ => throw (.joinBytesItem index value.typeName)

def affixed (method : String) (window : Option (Nat × Codes)) : Value → Except Fault Bool
  | .bytes affix => pure (fits affix)
  | .tuple affixes => anyFits affixes
  | value => throw (.affixNeeded method "bytes" value.typeName)
where
  fits (affix : Codes) : Bool :=
    match window with
    | none => false
    | some (_, codes) =>
      if method == "startswith" then affix.isPrefixOf codes else affix.isSuffixOf codes
  anyFits : List Value → Except Fault Bool
    | [] => pure false
    | .bytes affix :: rest => if fits affix then pure true else anyFits rest
    | value :: _ => throw (.bytesMember value.typeName)

def decoded (codes : Codes) (encoding handling : Codes) : Except Fault Codes := do
  let name := String.ofList (encoding.map Char.ofNat)
  let mode := String.ofList (handling.map Char.ofNat)
  match Text.Encoding.ofName? name with
  | none => throw (.unknownEncoding name)
  | some encoding =>
    match Text.decode encoding ((Text.Handling.ofName? mode).getD .refuse) (codes.length + 1) 0 codes with
    | .ok text => return text
    | .error misfit =>
      if (Text.Handling.ofName? mode).isNone then throw (.unknownHandling mode)
      let byte := codes[misfit.start]?.getD 0
      let shown :=
        if misfit.stop == misfit.start + 1 then
          " 0x" ++ String.ofList (Text.hexDigits 2 byte)
        else "s"
      throw (.cannotDecode encoding.title shown (TextMethod.positions misfit) misfit.reason)

def hexText (codes : Codes) : Codes :=
  codes.flatMap fun byte => (Text.hexDigits 2 byte).map Char.toNat

/-- Bytes as digits with a separator between groups, counted from the end, or from the start if the size
is negative. -/
def hexGroups (separator : Nat) (size : Int) (codes : Codes) : Codes :=
  let count := size.natAbs
  if count == 0 then hexText codes
  else
    let groups :=
      if size < 0 then chunks count (codes.length + 1) codes
      else ((chunks count (codes.length + 1) codes.reverse).map List.reverse).reverse
    (List.intersperse [separator] (groups.map hexText)).flatten
where
  chunks (count : Nat) : Nat → Codes → List Codes
    | 0, _ => []
    | _ + 1, [] => []
    | fuel + 1, codes => codes.take count :: chunks count fuel (codes.drop count)

def hexDigit? (code : Nat) : Option Nat :=
  if isDigit code then some (code - '0'.toNat)
  else if 'a'.toNat ≤ lower code && lower code ≤ 'f'.toNat then some (lower code - 'a'.toNat + 10)
  else none

def fromHex : Nat → Codes → Except Fault Codes
  | _, [] => pure []
  | position, [code] =>
    if isBlank code then pure []
    else throw (.hexPosition (if (hexDigit? code).isSome then position + 1 else position))
  | position, first :: second :: rest =>
    if isBlank first then fromHex (position + 1) (second :: rest)
    else
      match hexDigit? first, hexDigit? second with
      | some high, some low => return (16 * high + low) :: (← fromHex (position + 2) rest)
      | none, _ => throw (.hexPosition position)
      | _, none => throw (.hexPosition (position + 1))

def call (machine : Machine) (codes : Codes) (word : String) (passed : Passed) : Eval Value := do
  let title : Passed.Title := ⟨"bytes", word⟩
  match question? word codes, change? word codes with
  | some answer, _ =>
    passed.nothing title
    return .truth answer
  | none, some changed =>
    passed.nothing title
    return .bytes changed
  | none, none =>
    match word with
    | "center" | "ljust" | "rjust" =>
      let arguments ← passed.between title 1 2
      let width ← wordArgument (arguments[0]?.getD .nothing)
      return .bytes (← justified word width (← fillArgument word arguments[1]?) codes)
    | "count" | "find" | "rfind" | "index" | "rindex" =>
      let arguments ← passed.counted title 1 3
      let part ← partArgument (arguments[0]?.getD .nothing)
      let window ← window codes arguments[1]? arguments[2]?
      if word == "count" then
        return .int ((window.map fun (_, codes) => Text.occurrences part codes).getD 0)
      match positionIn (word.startsWith "r") part window with
      | some position => return .int position
      | none => if word.endsWith "find" then return .int (-1) else throw (.notFound "subsection")
    | "decode" =>
      let arguments ← passed.arguments title ["encoding", "errors"] 0 2
      let encoding ← ((Passed.pick arguments 0).map (TextMethod.argument word "argument 'encoding'")).getD
        (pure (Text.codes "utf-8"))
      let handling ← ((Passed.pick arguments 1).map (TextMethod.argument word "argument 'errors'")).getD
        (pure (Text.codes "strict"))
      return .text (← decoded codes encoding handling)
    | "startswith" | "endswith" =>
      let arguments ← passed.counted title 1 3
      let window ← window codes arguments[1]? arguments[2]?
      return .truth (← affixed word window (arguments[0]?.getD .nothing))
    | "expandtabs" =>
      let arguments ← passed.arguments title ["tabsize"] 0 1
      let width ← ((Passed.pick arguments 0).map wordArgument).getD (pure 8)
      return .bytes (Text.expandTabs width.toNat 0 codes)
    | "fromhex" =>
      return .bytes (← fromHex 0 (← TextMethod.argument word "argument" (← passed.single title)))
    | "hex" =>
      let arguments ← passed.arguments title ["sep", "bytes_per_sep"] 0 2
      let size ← ((Passed.pick arguments 1).map wordArgument).getD (pure 1)
      match Passed.pick arguments 0 with
      | none => return .text (hexText codes)
      | some (.text [code]) | some (.bytes [code]) =>
        if 0x80 ≤ code then throw .separatorAscii
        return .text (hexGroups code size codes)
      | some (.text _) | some (.bytes _) => throw .separatorLength
      | some value => throw (.bytesMember value.typeName)
    | "join" =>
      let source ← passed.single title
      let texts ← joinable 0 (← itemsOf machine (fun _ => .joinNeedsIterable) source)
      return .bytes (List.intersperse codes texts).flatten
    | "strip" | "lstrip" | "rstrip" =>
      match ← passed.between title 0 1 with
      | [] | [.nothing] => return .bytes (stripped word isBlank codes)
      | drops :: _ =>
        let drops ← required drops
        return .bytes (stripped word (fun code => drops.contains code) codes)
    | "maketrans" =>
      let arguments ← passed.between title 2 2
      let left ← required (arguments[0]?.getD .nothing)
      let right ← required (arguments[1]?.getD .nothing)
      if left.length != right.length then throw .bytesTablePartner
      return .bytes ((left.zip right).foldl (fun table (code, other) => table.set code other)
        (List.range 256))
    | "partition" | "rpartition" =>
      let separator ← required (← passed.single title)
      if separator.isEmpty then throw .emptySeparator
      return .tuple ((partitioned (word == "rpartition") separator codes).map .bytes)
    | "removeprefix" | "removesuffix" =>
      return .bytes (withoutAffix word (← required (← passed.single title)) codes)
    | "replace" =>
      let arguments ← passed.between title 2 3
      let old ← required (arguments[0]?.getD .nothing)
      let new ← required (arguments[1]?.getD .nothing)
      let limit ← limitArgument arguments[2]?
      return .bytes (Text.replaceUpTo old new limit codes)
    | "split" | "rsplit" =>
      let arguments ← passed.arguments title ["sep", "maxsplit"] 0 2
      let limit ← limitArgument (Passed.pick arguments 1)
      let separator ← match Passed.pick arguments 0 with
        | none | some .nothing => pure none
        | some value => do pure (some (← required value))
      newList ((← splitUp word isBlank separator limit codes).map .bytes)
    | "splitlines" =>
      let arguments ← passed.arguments title ["keepends"] 0 1
      let keep ← ((Passed.pick arguments 0).map wordArgument).getD (pure 0)
      newList ((Text.codeLines (fun code => code == 0xA || code == 0xD) (keep != 0) codes).map .bytes)
    | "translate" =>
      let arguments ← passed.arguments title ["", "delete"] 1 2
      let dropped ← ((Passed.pick arguments 1).map required).getD (pure [])
      let kept := codes.filter fun code => !dropped.contains code
      match Passed.pick arguments 0 with
      | none | some .nothing => return .bytes kept
      | some table =>
        let table ← required table
        if table.length != 256 then throw .bytesTableLength
        return .bytes (kept.filterMap fun code => table[code]?)
    | "zfill" => return .bytes (← zeroFilled (← wordArgument (← passed.single title)) codes)
    | _ => throw (.noAttribute "bytes" word)

end BytesMethod

end Workbench.Formula
