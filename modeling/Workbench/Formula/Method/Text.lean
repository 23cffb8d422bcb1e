import Workbench.Formula.Method.Basic
import Workbench.Text.Case
import Workbench.Text.Encoding

/-! The methods of texts. -/

set_option autoImplicit false

namespace Workbench.Formula

open Text (Codes)

namespace TextMethod

def isLetter (code : Nat) : Bool :=
  if code < 0x80 then Text.isSmallAscii code || Text.isCapitalAscii code else Text.letters.holds code

def isDecimal (code : Nat) : Bool := (Text.decimalValue? code).isSome

def isDigit (code : Nat) : Bool := isDecimal code || Text.scriptDigits.holds code

def isNumeric (code : Nat) : Bool := isDigit code || Text.otherNumerals.holds code

def isBlank (code : Nat) : Bool := Text.blanks.holds code

def isCased (code : Nat) : Bool := Text.isCapital code || Text.isSmall code || Text.isTitle code

def titled : Bool → Codes → Codes
  | _, [] => []
  | inside, code :: rest =>
    (if inside then Text.lowerCode code else Text.titleCode code) ++ titled (isCased code) rest

def capitalized : Codes → Codes
  | [] => []
  | code :: rest => Text.titleCode code ++ rest.flatMap Text.lowerCode

def swapped (code : Nat) : Codes :=
  if Text.isCapital code then Text.lowerCode code
  else if Text.isSmall code then Text.upperCode code
  else [code]

/-- Whether capitals start words and small letters go on with them; `inside` a word, and whether any
letter with case was seen. -/
def isTitled : Bool → Bool → Codes → Bool
  | _, seen, [] => seen
  | inside, seen, code :: rest =>
    if Text.isCapital code || Text.isTitle code then !inside && isTitled true true rest
    else if Text.isSmall code then inside && isTitled true true rest
    else isTitled false seen rest

def startsName (code : Nat) : Bool := isLetter code || code == '_'.toNat

def isIdentifier : Codes → Bool
  | [] => false
  | code :: rest => startsName code && rest.all fun code => startsName code || isDecimal code

def question? (word : String) (codes : Codes) : Option Bool :=
  match word with
  | "isalnum" => some (allOfSome (fun code => isLetter code || isNumeric code) codes)
  | "isalpha" => some (allOfSome isLetter codes)
  | "isascii" => some (codes.all (· < 0x80))
  | "isdecimal" => some (allOfSome isDecimal codes)
  | "isdigit" => some (allOfSome isDigit codes)
  | "isidentifier" => some (isIdentifier codes)
  | "islower" => some (allCased Text.isSmall (fun code => Text.isCapital code || Text.isTitle code) codes)
  | "isnumeric" => some (allOfSome isNumeric codes)
  | "isprintable" => some (codes.all Text.isPrintable)
  | "isspace" => some (allOfSome isBlank codes)
  | "istitle" => some (isTitled false false codes)
  | "isupper" => some (allCased Text.isCapital (fun code => Text.isSmall code || Text.isTitle code) codes)
  | _ => none

def change? (word : String) (codes : Codes) : Option Codes :=
  match word with
  | "capitalize" => some (capitalized codes)
  | "casefold" => some (codes.flatMap Text.foldCode)
  | "lower" => some (codes.flatMap Text.lowerCode)
  | "swapcase" => some (codes.flatMap swapped)
  | "title" => some (titled false codes)
  | "upper" => some (codes.flatMap Text.upperCode)
  | _ => none

def names : List String :=
  ["capitalize", "casefold", "center", "count", "encode", "endswith", "expandtabs", "find", "format",
   "format_map", "index", "isalnum", "isalpha", "isascii", "isdecimal", "isdigit", "isidentifier",
   "islower", "isnumeric", "isprintable", "isspace", "istitle", "isupper", "join", "ljust", "lower",
   "lstrip", "maketrans", "partition", "removeprefix", "removesuffix", "replace", "rfind", "rindex",
   "rjust", "rpartition", "rsplit", "rstrip", "split", "splitlines", "startswith", "strip", "swapcase",
   "title", "translate", "upper", "zfill"]

def required : Value → Except Fault Codes
  | .text codes => pure codes
  | value => throw (.textNeeded value.typeName)

def argument (method which : String) : Value → Except Fault Codes
  | .text codes => pure codes
  | value => throw (.misuse (.argument method which "str" value.typeName))

def newTexts (texts : List Codes) : Eval Value := newList (texts.map .text)

def fillArgument : Option Value → Except Fault Nat
  | none => pure ' '.toNat
  | some (.text [code]) => pure code
  | some (.text _) => throw .fillLength
  | some value => throw (.fillNotText value.typeName)

def joinable : Nat → List Value → Except Fault (List Codes)
  | _, [] => pure []
  | index, .text codes :: rest => return codes :: (← joinable (index + 1) rest)
  | index, value :: _ => throw (.joinItem index value.typeName)

def affixed (method : String) (window : Option (Nat × Codes)) : Value → Except Fault Bool
  | .text affix => pure (fits affix)
  | .tuple affixes => anyFits affixes
  | value => throw (.affixNeeded method "str" value.typeName)
where
  fits (affix : Codes) : Bool :=
    match window with
    | none => false
    | some (_, codes) =>
      if method == "startswith" then affix.isPrefixOf codes else affix.isSuffixOf codes
  anyFits : List Value → Except Fault Bool
    | [] => pure false
    | .text affix :: rest => if fits affix then pure true else anyFits rest
    | value :: _ => throw (.affixItem method "str" value.typeName)

def codeShown (code : Nat) : String := String.ofList ('\'' :: Text.codeEscape code ++ ['\''])

def positions (misfit : Text.Misfit) : String :=
  if misfit.stop == misfit.start + 1 then toString misfit.start
  else toString misfit.start ++ "-" ++ toString (misfit.stop - 1)

def encoded (codes : Codes) (encoding handling : Codes) : Except Fault Codes := do
  let name := String.ofList (encoding.map Char.ofNat)
  let mode := String.ofList (handling.map Char.ofNat)
  match Text.Encoding.ofName? name with
  | none => throw (.unknownEncoding name)
  | some encoding =>
    match Text.encode encoding ((Text.Handling.ofName? mode).getD .refuse) 0 codes with
    | .ok bytes => return bytes
    | .error misfit =>
      if (Text.Handling.ofName? mode).isNone then throw (.unknownHandling mode)
      let shown :=
        if misfit.stop == misfit.start + 1 then " " ++ codeShown (codes[misfit.start]?.getD 0) else "s"
      throw (.cannotEncode encoding.title shown (positions misfit) misfit.reason)

def throughTable (table : Value) (code : Nat) : Eval Codes := do
  let found : Option Value ← match table with
    | .mapping place => do pure (entryOf? (.int code) (← mappingAt place))
    | .list place => do pure ((← listAt place)[code]?)
    | .tuple items => pure (items[code]?)
    | .text codes => pure (codes[code]?.map fun code => .text [code])
    | .bytes codes => pure (codes[code]?.map fun (code : Nat) => .int code)
    | table => throw (.notSubscriptable table.typeName)
  match found with
  | none => return [code]
  | some .nothing => return []
  | some (.text codes) => return codes
  | some value =>
    match value.integer? with
    | some n => if 0 ≤ n && n ≤ 0x10FFFF then return [n.toNat] else throw .tableCodeRange
    | none => throw .tableEntry

def throughTableAll (table : Value) : Codes → Eval Codes
  | [] => pure []
  | code :: rest => do
    let first ← throughTable table code
    return first ++ (← throughTableAll table rest)

/-- A table of characters: from a mapping, or from texts that stand side by side and one to leave
out. -/
def characterTable (arguments : List Value) : Eval Value := do
  match arguments with
  | [.mapping place] =>
    let entries ← (← mappingAt place).mapM fun (key, value) => do
      match key, key.integer? with
      | .text [code], _ => return (Value.int code, value)
      | .text _, _ => throw .tableKeyLength
      | _, some n => return (Value.int n, value)
      | _, none => throw .tableKey
    newMapping (entries.foldl (fun table (key, value) => putEntry key value table) [])
  | [_] => throw .tableNotMapping
  | .text left :: second :: rest =>
    let right ← argument "maketrans" "argument 2" second
    let dropped ← match rest with
      | third :: _ => argument "maketrans" "argument 3" third
      | [] => pure []
    if left.length != right.length then throw .tableLengths
    let pairs := (left.zip right).map fun ((code, other) : Nat × Nat) => (Value.int code, Value.int other)
    let gaps := dropped.map fun (code : Nat) => (Value.int code, Value.nothing)
    newMapping ((pairs ++ gaps).foldl (fun table (key, value) => putEntry key value table) [])
  | _ => throw .tableFirst

def call (machine : Machine) (codes : Codes) (word : String) (passed : Passed) : Eval Value := do
  let title : Passed.Title := ⟨"str", word⟩
  match question? word codes, change? word codes with
  | some answer, _ =>
    passed.nothing title
    return .truth answer
  | none, some changed =>
    passed.nothing title
    return .text changed
  | none, none =>
    match word with
    | "center" | "ljust" | "rjust" =>
      let arguments ← passed.between title 1 2
      let width ← wordArgument (arguments[0]?.getD .nothing)
      return .text (← justified word width (← fillArgument arguments[1]?) codes)
    | "count" | "find" | "rfind" | "index" | "rindex" =>
      let arguments ← passed.counted title 1 3
      let part ← required (arguments[0]?.getD .nothing)
      let window ← window codes arguments[1]? arguments[2]?
      if word == "count" then
        return .int ((window.map fun (_, codes) => Text.occurrences part codes).getD 0)
      match positionIn (word.startsWith "r") part window with
      | some position => return .int position
      | none => if word.endsWith "find" then return .int (-1) else throw (.notFound "substring")
    | "encode" =>
      let arguments ← passed.arguments title ["encoding", "errors"] 0 2
      let encoding ← ((Passed.pick arguments 0).map (argument word "argument 'encoding'")).getD
        (pure (Text.codes "utf-8"))
      let handling ← ((Passed.pick arguments 1).map (argument word "argument 'errors'")).getD
        (pure (Text.codes "strict"))
      return .bytes (← encoded codes encoding handling)
    | "startswith" | "endswith" =>
      let arguments ← passed.counted title 1 3
      let window ← window codes arguments[1]? arguments[2]?
      return .truth (← affixed word window (arguments[0]?.getD .nothing))
    | "expandtabs" =>
      let arguments ← passed.arguments title ["tabsize"] 0 1
      let width ← ((Passed.pick arguments 0).map wordArgument).getD (pure 8)
      return .text (Text.expandTabs width.toNat 0 codes)
    | "join" =>
      let source ← passed.single title
      let texts ← joinable 0 (← itemsOf machine (fun _ => .joinNeedsIterable) source)
      return .text (List.intersperse codes texts).flatten
    | "strip" | "lstrip" | "rstrip" =>
      match ← passed.between title 0 1 with
      | [.text drops] => return .text (stripped word (fun code => drops.contains code) codes)
      | [] | [.nothing] => return .text (stripped word isBlank codes)
      | _ => throw (.stripArgument word)
    | "maketrans" => characterTable (← passed.between title 1 3)
    | "partition" | "rpartition" =>
      let separator ← required (← passed.single title)
      if separator.isEmpty then throw .emptySeparator
      return .tuple ((partitioned (word == "rpartition") separator codes).map .text)
    | "removeprefix" | "removesuffix" =>
      let affix ← argument word "argument" (← passed.single title)
      return .text (withoutAffix word affix codes)
    | "replace" =>
      let arguments ← passed.between title 2 3
      let old ← argument word "argument 1" (arguments[0]?.getD .nothing)
      let new ← argument word "argument 2" (arguments[1]?.getD .nothing)
      let limit ← limitArgument arguments[2]?
      return .text (Text.replaceUpTo old new limit codes)
    | "split" | "rsplit" =>
      let arguments ← passed.arguments title ["sep", "maxsplit"] 0 2
      let limit ← limitArgument (Passed.pick arguments 1)
      let separator ← match (Passed.pick arguments 0) with
        | none | some .nothing => pure none
        | some (.text separator) => pure (some separator)
        | some value => throw (.textOrNothingNeeded value.typeName)
      newTexts (← splitUp word isBlank separator limit codes)
    | "splitlines" =>
      let arguments ← passed.arguments title ["keepends"] 0 1
      let keep ← ((Passed.pick arguments 0).map wordArgument).getD (pure 0)
      newTexts (Text.codeLines Text.boundaries.holds (keep != 0) codes)
    | "translate" => return .text (← throughTableAll (← passed.single title) codes)
    | "zfill" => return .text (← zeroFilled (← wordArgument (← passed.single title)) codes)
    | _ => throw (.noAttribute "str" word)

end TextMethod

end Workbench.Formula
