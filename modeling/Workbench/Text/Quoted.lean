import Workbench.Text.Classes

/-! Texts and lists of texts as the reports of this library show them. -/

set_option autoImplicit false

namespace Workbench.Text

def hexDigits : Nat → Nat → List Char
  | 0, _ => []
  | width + 1, n => hexDigits width (n / 16) ++ [Nat.digitChar (n % 16)]

/-- A code that is not shown as a character, in the shortest of three widths. -/
def codeEscape (code : Nat) : List Char :=
  if code < 0x100 then '\\' :: 'x' :: hexDigits 2 code
  else if code < 0x10000 then '\\' :: 'u' :: hexDigits 4 code
  else '\\' :: 'U' :: hexDigits 8 code

def escape (quote : Char) (code : Nat) : List Char :=
  if code == quote.toNat || code == '\\'.toNat then ['\\', Char.ofNat code]
  else if code == '\n'.toNat then ['\\', 'n']
  else if code == '\t'.toNat then ['\\', 't']
  else if code == '\r'.toNat then ['\\', 'r']
  else if isPrintable code then [Char.ofNat code]
  else codeEscape code

/-- Single quotes, unless the text has a single quote and no double one. -/
def quoteFor (text : Codes) : Char :=
  if text.contains '\''.toNat && !text.contains '"'.toNat then '"' else '\''

def quotedCodes (text : Codes) : String :=
  let quote := quoteFor text
  String.ofList (quote :: text.flatMap (escape quote) ++ [quote])

def quoted (text : String) : String := quotedCodes (codes text)

/-- A byte string, marked as one; every byte that is not a printable character is shown by its
code. -/
def quotedBytes (bytes : Codes) : String :=
  let quote := quoteFor bytes
  let shown (code : Nat) := if code < 128 then escape quote code else codeEscape code
  String.ofList ('b' :: quote :: bytes.flatMap shown ++ [quote])

def listed (items : List String) : String :=
  "[" ++ ", ".intercalate items ++ "]"

end Workbench.Text
