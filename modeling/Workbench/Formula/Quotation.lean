import Workbench.Formula.Tree
import Workbench.Text.Names

/-! Quoted texts. One or three quotes of a kind enclose a text; three allow it to run over several
lines. A backslash starts an escape, unless the text is marked as raw. -/

set_option autoImplicit false

namespace Workbench.Formula

open Text (Codes)

def isOctal (c : Char) : Bool := '0' ≤ c && c ≤ '7'

def isBinary (c : Char) : Bool := c == '0' || c == '1'

def isHex (c : Char) : Bool := c.isDigit || ('a' ≤ c && c ≤ 'f') || ('A' ≤ c && c ≤ 'F')

def hexValue (c : Char) : Nat :=
  if c.isDigit then c.toNat - '0'.toNat
  else if 'a' ≤ c then c.toNat - 'a'.toNat + 10
  else c.toNat - 'A'.toNat + 10

def valueIn (base : Nat) (digits : List Char) : Nat :=
  digits.foldl (fun value c => base * value + hexValue c) 0

structure Quoting where
  raw : Bool := false
  bytes : Bool := false
  /-- Braces in the quotation hold formulas. -/
  template : Bool := false
  deriving DecidableEq, Repr

def Quoting.ofWord? (word : List Char) : Option Quoting :=
  match word.map Char.toLower with
  | [] | ['u'] => some {}
  | ['r'] => some { raw := true }
  | ['b'] => some { bytes := true }
  | ['f'] => some { template := true }
  | ['b', 'r'] | ['r', 'b'] => some { raw := true, bytes := true }
  | ['f', 'r'] | ['r', 'f'] => some { raw := true, template := true }
  | _ => none

/-- What stands up to a closing quote on the same line, and what follows it. A character after a
backslash closes nothing. -/
def enclosed (quote : Char) : List Char → Option (List Char × List Char)
  | [] => none
  | [c] => if c == quote then some ([], []) else none
  | c :: d :: rest =>
    if c == quote then some ([], d :: rest)
    else if c == '\n' then none
    else if c == '\\' then
      (enclosed quote rest).map fun (body, after) => (c :: d :: body, after)
    else (enclosed quote (d :: rest)).map fun (body, after) => (c :: body, after)

def enclosedByThree (quote : Char) : List Char → Option (List Char × List Char)
  | [] | [_] => none
  | c :: d :: rest =>
    if c == quote && d == quote && rest.head? == some quote then some ([], rest.tail)
    else if c == '\\' then
      (enclosedByThree quote rest).map fun (body, after) => (c :: d :: body, after)
    else (enclosedByThree quote (d :: rest)).map fun (body, after) => (c :: body, after)

def enclosedText (quote : Char) (text : List Char) : Option (List Char × List Char) :=
  match text with
  | first :: second :: third :: rest =>
    if first == quote && second == quote && third == quote then enclosedByThree quote rest
    else enclosed quote (second :: third :: rest)
  | _ :: rest => enclosed quote rest
  | [] => none

def hexEscape (width : Nat) (text : List Char) : Option (Nat × List Char) :=
  let digits := text.take width
  let code := valueIn 16 digits
  if digits.length == width && digits.all isHex && code ≤ 0x10FFFF then some (code, text.drop width)
  else none

def octalEscape (text : List Char) : Nat × List Char :=
  let digits := (text.take 3).takeWhile isOctal
  (valueIn 8 digits, text.drop digits.length)

def namedEscape : List Char → Option (Nat × List Char)
  | '\x7b' :: rest =>
    match rest.dropWhile (· != '\x7d') with
    | [] => none
    | _ :: after =>
      (Text.codeNamed? (String.ofList (rest.takeWhile (· != '\x7d')))).map (·, after)
  | _ => none

def letterEscape? (c : Char) : Option Nat :=
  match c with
  | '\\' | '\'' | '"' => some c.toNat
  | 'a' => some 0x7
  | 'b' => some 0x8
  | 't' => some 0x9
  | 'n' => some 0xA
  | 'v' => some 0xB
  | 'f' => some 0xC
  | 'r' => some 0xD
  | _ => none

/-- What an escape stands for, given what follows its backslash, and what is left after it. A
character that starts no escape stays, and so does the backslash, also where nothing follows it; an
escape that is not complete makes the quotation malformed. Byte strings have no escapes by code point
or name. -/
def escapeAt (bytes : Bool) : List Char → Option (Codes × List Char)
  | [] => some (['\\'.toNat], [])
  | c :: rest =>
    match letterEscape? c with
    | some code => some ([code], rest)
    | none =>
      if c == '\n' then some ([], rest)
      else if isOctal c then
        let (code, after) := octalEscape (c :: rest)
        some ([if bytes then code % 256 else code], after)
      else if c == 'x' then (hexEscape 2 rest).map fun (code, after) => ([code], after)
      else if c == 'u' && !bytes then (hexEscape 4 rest).map fun (code, after) => ([code], after)
      else if c == 'U' && !bytes then (hexEscape 8 rest).map fun (code, after) => ([code], after)
      else if c == 'N' && !bytes then (namedEscape rest).map fun (code, after) => ([code], after)
      else some (['\\'.toNat, c.toNat], rest)

def unescape (bytes : Bool) : Nat → List Char → Option Codes
  | _, [] => some []
  | 0, _ :: _ => none
  | fuel + 1, c :: rest =>
    if c == '\\' then do
      let (found, after) ← escapeAt bytes rest
      return found ++ (← unescape bytes fuel after)
    else (unescape bytes fuel rest).map (c.toNat :: ·)

/-- The codes of what a quotation encloses. Byte strings are written in ASCII. -/
def Quoting.decode (quoting : Quoting) (body : List Char) : Option Codes :=
  if quoting.bytes && !(body.all fun c => c.toNat < 0x80) then none
  else if quoting.raw then some (body.map Char.toNat)
  else unescape quoting.bytes body.length body

/-! Quotations with formulas in braces. -/

def openBrace : Char := '\x7b'

def closeBrace : Char := '\x7d'

/-- The plain text at the head of a quotation, and what follows it. At the outermost level a brace that
is meant as text is doubled, and one of the two belongs to the text; `more` then says that the text
goes on after the other. A name in braces after an escape is text. -/
def plainPart (raw outermost : Bool) : Nat → List Char → Option (List Char × Bool × List Char)
  | 0, _ => none
  | _ + 1, [] => some ([], false, [])
  | fuel + 1, c :: rest =>
    let keep (kept after : List Char) : Option (List Char × Bool × List Char) :=
      (plainPart raw outermost fuel after).map fun (text, more, after) => (kept ++ text, more, after)
    if c == '\\' && !raw then
      match rest with
      | 'N' :: d :: after =>
        if d == openBrace then
          let named := after.takeWhile (· != closeBrace)
          keep (c :: 'N' :: d :: named ++ (after.drop named.length).take 1)
            (after.drop (named.length + 1))
        else keep [c, 'N', d] after
      | d :: after => if d == openBrace || d == closeBrace then keep [c] rest else keep [c, d] after
      | [] => keep [c] []
    else if c == openBrace || c == closeBrace then
      if outermost && rest.head? == some c then some ([c], true, rest.tail)
      else if outermost && c == closeBrace then none
      else some ([], false, c :: rest)
    else keep [c] rest

def closing? (c : Char) : Option Char :=
  if c == '(' then some ')' else if c == '[' then some ']'
  else if c == openBrace then some closeBrace else none

/-- The text of a formula in braces up to what ends it: a closing brace, an exclamation mark, a colon or
an equals sign that stands outside brackets and quotes and is no part of a comparison. `quote` is the
quotation that is open, by its sign and the number of signs; `brackets` are the brackets to be closed.
Backslashes and hash signs are refused. -/
def formulaPart : Nat → Option (Char × Nat) → List Char → List Char → Option (List Char × List Char)
  | 0, _, _, _ => none
  | _ + 1, _, _, [] => none
  | fuel + 1, quote, brackets, c :: rest =>
    let keep (quote : Option (Char × Nat)) (brackets kept after : List Char) :
        Option (List Char × List Char) :=
      (formulaPart fuel quote brackets after).map fun (text, after) => (kept ++ text, after)
    let three := rest.take 2 == [c, c]
    if c == '\\' then none
    else match quote with
      | some (sign, count) =>
        if c != sign then keep quote brackets [c] rest
        else if count == 1 then keep none brackets [c] rest
        else if three then keep none brackets [c, c, c] (rest.drop 2)
        else keep quote brackets [c] rest
      | none =>
        if c == '\'' || c == '"' then
          if three then keep (some (c, 3)) brackets [c, c, c] (rest.drop 2)
          else keep (some (c, 1)) brackets [c] rest
        else if c == '#' then none
        else match closing? c with
          | some close => keep none (close :: brackets) [c] rest
          | none =>
            if brackets.isEmpty && "!:=<>".toList.contains c || (brackets.isEmpty && c == closeBrace) then
              if "!=<>".toList.contains c && rest.head? == some '=' then
                keep none brackets [c, '='] rest.tail
              else if c == '<' || c == '>' then keep none brackets [c] rest
              else some ([], c :: rest)
            else if c == ')' || c == ']' || c == closeBrace then
              if brackets.head? == some c then keep none brackets.tail [c] rest else none
            else keep none brackets [c] rest

def isBlankFormula (text : List Char) : Bool :=
  text.all fun c => c == ' ' || c == '\t' || c == '\n' || c == '\x0c'

def Conversion.ofLetter? : Char → Option Conversion
  | 's' => some .shown
  | 'r' => some .written
  | 'a' => some .ascii
  | _ => none

def equalsPart (text : List Char) : List Char × List Char :=
  match text with
  | '=' :: rest =>
    let blanks := rest.takeWhile fun c => c == ' ' || ('\t' ≤ c && c ≤ '\r')
    ('=' :: blanks, rest.drop blanks.length)
  | rest => ([], rest)

def conversionPart : List Char → Option (Option Conversion × List Char)
  | '!' :: c :: rest => (Conversion.ofLetter? c).map fun conversion => (some conversion, rest)
  | '!' :: [] => none
  | rest => some (none, rest)

end Workbench.Formula
