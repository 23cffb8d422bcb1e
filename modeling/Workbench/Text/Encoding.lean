import Workbench.Text.Quoted

/-! Texts as bytes and bytes as texts, in three encodings. What cannot be converted is refused, left out,
or replaced. -/

set_option autoImplicit false

namespace Workbench.Text

inductive Encoding where
  | utf8
  | ascii
  | latin1
  deriving DecidableEq, Repr

namespace Encoding

def title : Encoding → String
  | utf8 => "utf-8"
  | ascii => "ascii"
  | latin1 => "latin-1"

def spellings : List (String × Encoding) :=
  [("utf-8", utf8), ("utf8", utf8), ("u8", utf8), ("utf", utf8), ("cp65001", utf8),
   ("ascii", ascii), ("us-ascii", ascii), ("646", ascii),
   ("latin-1", latin1), ("latin1", latin1), ("iso-8859-1", latin1), ("iso8859-1", latin1),
   ("8859", latin1), ("cp819", latin1), ("latin", latin1), ("l1", latin1)]

/-- The encoding with a name; case does not matter, and neither which sign joins its parts. -/
def ofName? (name : String) : Option Encoding :=
  let plain := String.ofList (name.toList.map fun c =>
    if c == '_' || c == ' ' then '-' else c.toLower)
  (spellings.find? fun entry => entry.1 == plain).map Prod.snd

end Encoding

inductive Handling where
  | refuse
  | leaveOut
  | replace
  | escape
  deriving DecidableEq, Repr

def Handling.ofName? (name : String) : Option Handling :=
  match name with
  | "strict" => some .refuse
  | "ignore" => some .leaveOut
  | "replace" => some .replace
  | "backslashreplace" => some .escape
  | _ => none

structure Misfit where
  start : Nat
  stop : Nat
  reason : String

def isSurrogate (code : Nat) : Bool := 0xD800 ≤ code && code ≤ 0xDFFF

def encodeCode? (encoding : Encoding) (code : Nat) : Option Codes :=
  match encoding with
  | .ascii => if code < 0x80 then some [code] else none
  | .latin1 => if code < 0x100 then some [code] else none
  | .utf8 =>
    if isSurrogate code then none
    else if code < 0x80 then some [code]
    else if code < 0x800 then some [0xC0 + code / 64, 0x80 + code % 64]
    else if code < 0x10000 then
      some [0xE0 + code / 4096, 0x80 + code / 64 % 64, 0x80 + code % 64]
    else
      some [0xF0 + code / 262144, 0x80 + code / 4096 % 64, 0x80 + code / 64 % 64, 0x80 + code % 64]

def Encoding.encodeReason : Encoding → String
  | utf8 => "surrogates not allowed"
  | ascii => "ordinal not in range(128)"
  | latin1 => "ordinal not in range(256)"

def encode (encoding : Encoding) (handling : Handling) : Nat → Codes → Except Misfit Codes
  | _, [] => pure []
  | start, code :: rest =>
    match encodeCode? encoding code, handling with
    | some bytes, _ => return bytes ++ (← encode encoding handling (start + 1) rest)
    | none, .refuse =>
      let run := (code :: rest).takeWhile fun code => (encodeCode? encoding code).isNone
      throw ⟨start, start + run.length, encoding.encodeReason⟩
    | none, .leaveOut => encode encoding handling (start + 1) rest
    | none, .replace => return '?'.toNat :: (← encode encoding handling (start + 1) rest)
    | none, .escape =>
      return (codeEscape code).map Char.toNat ++ (← encode encoding handling (start + 1) rest)

def followers? (first : Nat) : Option (Nat × Nat × Nat) :=
  if 0xC2 ≤ first && first ≤ 0xDF then some (1, 0x80, 0xBF)
  else if first == 0xE0 then some (2, 0xA0, 0xBF)
  else if first == 0xED then some (2, 0x80, 0x9F)
  else if 0xE1 ≤ first && first ≤ 0xEF then some (2, 0x80, 0xBF)
  else if first == 0xF0 then some (3, 0x90, 0xBF)
  else if first == 0xF4 then some (3, 0x80, 0x8F)
  else if 0xF1 ≤ first && first ≤ 0xF3 then some (3, 0x80, 0xBF)
  else none

def followersFit (low high : Nat) : Nat → Codes → Nat
  | 0, _ => 0
  | _ + 1, [] => 0
  | count + 1, byte :: rest =>
    if low ≤ byte && byte ≤ high then followersFit 0x80 0xBF count rest + 1 else 0

/-- The code at the head of some bytes and the number of its bytes, or how many bytes are no code, and
why. -/
def decodeCode (encoding : Encoding) (first : Nat) (rest : Codes) : Except (Nat × String) (Nat × Nat) :=
  match encoding with
  | .latin1 => pure (first, 1)
  | .ascii => if first < 0x80 then pure (first, 1) else throw (1, "ordinal not in range(128)")
  | .utf8 =>
    if first < 0x80 then pure (first, 1)
    else
      match followers? first with
      | none => throw (1, "invalid start byte")
      | some (count, low, high) =>
        let fit := followersFit low high count rest
        if fit == count then
          let lead := if count == 1 then first - 0xC0 else if count == 2 then first - 0xE0 else first - 0xF0
          pure ((rest.take count).foldl (fun code byte => code * 64 + (byte - 0x80)) lead, count + 1)
        else if fit == rest.length then throw (fit + 1, "unexpected end of data")
        else throw (fit + 1, "invalid continuation byte")

def decode (encoding : Encoding) (handling : Handling) : Nat → Nat → Codes → Except Misfit Codes
  | 0, _, _ => pure []
  | _ + 1, _, [] => pure []
  | fuel + 1, start, first :: rest =>
    match decodeCode encoding first rest, handling with
    | .ok (code, length), _ =>
      return code :: (← decode encoding handling fuel (start + length) (rest.drop (length - 1)))
    | .error (length, reason), .refuse => throw ⟨start, start + length, reason⟩
    | .error (length, _), handling => do
      let others ← decode encoding handling fuel (start + length) (rest.drop (length - 1))
      match handling with
      | .replace => return 0xFFFD :: others
      | .escape => return ((first :: rest).take length).flatMap (fun byte => codes "\\x" ++
          (hexDigits 2 byte).map Char.toNat) ++ others
      | _ => return others

end Workbench.Text
