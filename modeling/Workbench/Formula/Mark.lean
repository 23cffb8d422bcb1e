import Workbench.Formula.Fault
import Workbench.Formula.Quotation
import Workbench.Number.Binary64
import Workbench.Text.Lines

/-! The marks of a formula: numerals, quoted texts, words and signs. Where a text has anything else in it,
or a numeral that is not well formed, its marks end. -/

set_option autoImplicit false

namespace Workbench.Formula

open Text (Codes)

inductive Mark where
  | int (n : Nat)
  | float (x : Float)
  | imaginary (x : Float)
  | text (codes : Codes)
  | bytes (codes : Codes)
  /-- A quotation with formulas in braces, by what it encloses. -/
  | template (raw : Bool) (body : List Char)
  | word (name : String)
  | sign (spelling : String)
  /-- The end of a line outside parentheses. -/
  | newline
  /-- Where no mark can be read. -/
  | stray

/-- The longest spelling that fits wins, so longer ones stand first. -/
def signSpellings : List String :=
  ["...", "**", "//", "<=", ">=", "==", "!=", "<<", ">>", ":=", "+", "-", "*", "/", "%", "(", ")", "[",
   "]", "\x7b", "\x7d", ",", ".", ":", "=", "<", ">", "|", "^", "&", "~", "@"]

/-- Digits with single underscores between them, and what follows. An underscore that no digit
follows is refused. -/
def digitRun (isDigit : Char → Bool) : List Char → Option (List Char × List Char)
  | [] => some ([], [])
  | [c] => if isDigit c then some ([c], []) else if c == '_' then none else some ([], [c])
  | c :: d :: rest =>
    if isDigit c then (digitRun isDigit (d :: rest)).map fun (run, after) => (c :: run, after)
    else if c == '_' then
      if isDigit d then digitRun isDigit (d :: rest) else none
    else some ([], c :: d :: rest)

def basedNumeral (base : Nat) (isDigit : Char → Bool) (rest : List Char) :
    Option (Mark × List Char) := do
  let rest := if rest.head? == some '_' then rest.tail else rest
  if rest.head?.any isDigit then
    let (digits, after) ← digitRun isDigit rest
    if after.head?.any Char.isDigit then none else some (.int (valueIn base digits), after)
  else none

/-- The exponent of a decimal numeral. A letter that starts none belongs to what follows. -/
def exponentPart : List Char → Option (Option Int × List Char)
  | letter :: rest =>
    if letter == 'e' || letter == 'E' then
      match rest with
      | '+' :: c :: after =>
        if c.isDigit then (digitRun Char.isDigit (c :: after)).map fun (run, after) =>
          (some (valueIn 10 run : Int), after)
        else none
      | '-' :: c :: after =>
        if c.isDigit then (digitRun Char.isDigit (c :: after)).map fun (run, after) =>
          (some (-(valueIn 10 run : Int)), after)
        else none
      | '+' :: [] | '-' :: [] => none
      | c :: after =>
        if c.isDigit then (digitRun Char.isDigit (c :: after)).map fun (run, after) =>
          (some (valueIn 10 run : Int), after)
        else some (none, letter :: rest)
      | [] => some (none, [letter])
    else some (none, letter :: rest)
  | [] => some (none, [])

def fractionPart : List Char → Option (Option (List Char) × List Char)
  | '.' :: c :: after =>
    if c.isDigit then (digitRun Char.isDigit (c :: after)).map fun (run, after) => (some run, after)
    else some (some [], c :: after)
  | '.' :: [] => some (some [], [])
  | rest => some (none, rest)

/-- An integer in decimal has no leading zero, unless it is zero, and not too many digits. -/
def wholeNumeral (digits : List Char) : Option Mark :=
  if digits.all (· == '0') then some (.int 0)
  else if digits.head? == some '0' then none
  else if digitLimit < digits.length then none
  else some (.int (valueIn 10 digits))

def doubleOf (whole places : List Char) (exponent : Int) : Float :=
  Number.ofDecimal (valueIn 10 (whole ++ places)) (exponent - places.length)

def decimalNumeral (whole rest : List Char) : Option (Mark × List Char) := do
  let (fraction, rest) ← fractionPart rest
  let (exponent, rest) ← exponentPart rest
  if rest.head? == some 'j' || rest.head? == some 'J' then
    some (.imaginary (doubleOf whole (fraction.getD []) (exponent.getD 0)), rest.tail)
  else
    match fraction, exponent with
    | none, none => (wholeNumeral whole).map (·, rest)
    | fraction, exponent => some (.float (doubleOf whole (fraction.getD []) (exponent.getD 0)), rest)

def numeral (text : List Char) : Option (Mark × List Char) :=
  match text with
  | '0' :: 'x' :: rest | '0' :: 'X' :: rest => basedNumeral 16 isHex rest
  | '0' :: 'o' :: rest | '0' :: 'O' :: rest => basedNumeral 8 isOctal rest
  | '0' :: 'b' :: rest | '0' :: 'B' :: rest => basedNumeral 2 isBinary rest
  | text => do
    let (whole, rest) ← digitRun Char.isDigit text
    decimalNumeral whole rest

/-- A name starts with a letter or a low line; decimal digits may follow. -/
def startsWord (c : Char) : Bool := Text.isLetter c || c == '_'

def continuesWord (c : Char) : Bool := startsWord c || Text.isDecimal c

/-- The mathematical digits are the same in names as the plain ones. -/
def foldDigit (c : Char) : Char :=
  if 0x1D7CE ≤ c.toNat && c.toNat ≤ 0x1D7FF then Char.ofNat ('0'.toNat + (c.toNat - 0x1D7CE) % 10)
  else c

def isQuote (c : Char) : Bool := c == '"' || c == '\''

def quotation (quoting : Quoting) (text : List Char) : Option (Mark × List Char) := do
  let quote ← text.head?
  let (body, after) ← enclosedText quote text
  if quoting.template then return (.template quoting.raw body, after)
  let codes ← quoting.decode body
  return (if quoting.bytes then .bytes codes else .text codes, after)

def mark (text : List Char) : Option (Mark × List Char) :=
  match text with
  | [] => none
  | c :: rest =>
    if c.isDigit || (c == '.' && rest.head?.any Char.isDigit) then numeral text
    else if isQuote c then quotation {} text
    else if startsWord c then
      let word := c :: rest.takeWhile continuesWord
      let after := rest.dropWhile continuesWord
      match Quoting.ofWord? word, after.head?.any isQuote with
      | some quoting, true => quotation quoting after
      | _, _ => some (.word (String.ofList (word.map foldDigit)), after)
    else
      (signSpellings.find? fun spelling => spelling.toList.isPrefixOf text).map fun spelling =>
        (.sign spelling, text.drop spelling.length)

def isGap (c : Char) : Bool := c == ' ' || c == '\t' || c == '\x0c'

def depthAfter (depth : Nat) : Mark → Nat
  | .sign "(" | .sign "[" | .sign "\x7b" => depth + 1
  | .sign ")" | .sign "]" | .sign "\x7d" => depth - 1
  | _ => depth

def allows (limit : Option Nat) (n : Nat) : Bool := limit.all (n ≤ ·)

/-- The column at which a line starts, and the line from there on. A tab goes to the next multiple of
eight and a form feed back to the margin. Of a line that is continued, the first part that is indented
counts; a backslash that continues nothing is refused. -/
def indentation : Nat → Nat → List Char → Option (Nat × List Char)
  | column, kept, ' ' :: rest => indentation (column + 1) kept rest
  | column, kept, '\t' :: rest => indentation ((column / 8 + 1) * 8) kept rest
  | _, kept, '\x0c' :: rest => indentation 0 kept rest
  | column, kept, '\\' :: '\n' :: c :: rest =>
    indentation column (if kept == 0 then column else kept) (c :: rest)
  | _, _, '\\' :: _ => none
  | column, kept, rest => some (if kept == 0 then column else kept, rest)

/-- The marks of a text; `fuel` bounds their number. A hash sign starts a comment that runs to the
end of the line. Lines with nothing on them do not count, and outside parentheses every other line
starts at the margin; `fresh` says that a line starts here. Parentheses may nest up to a limit. -/
def marksFrom (nesting : Option Nat) : Nat → Nat → Bool → List Char → List Mark
  | 0, _, _, _ => [.stray]
  | fuel + 1, depth, true, text =>
    match indentation 0 0 text with
    | none => [.stray]
    | some (column, rest) =>
      match rest with
      | '\n' :: rest => marksFrom nesting fuel depth true rest
      | '#' :: rest =>
        match rest.dropWhile (· != '\n') with
        | '\n' :: rest => marksFrom nesting fuel depth true rest
        | _ => []
      | rest => if depth == 0 && column != 0 then [.stray] else marksFrom nesting fuel depth false rest
  | _ + 1, _, false, [] => []
  | fuel + 1, depth, false, c :: rest =>
    if isGap c then marksFrom nesting fuel depth false rest
    else if c == '\n' then
      let marks := marksFrom nesting fuel depth true rest
      if depth == 0 then .newline :: marks else marks
    else if c == '#' then marksFrom nesting fuel depth false (rest.dropWhile (· != '\n'))
    else if c == '\\' then
      match rest with
      | '\n' :: d :: rest => marksFrom nesting fuel depth false (d :: rest)
      | _ => [.stray]
    else match mark (c :: rest) with
      | none => [.stray]
      | some (found, after) =>
        let inner := depthAfter depth found
        if allows nesting inner then found :: marksFrom nesting fuel inner false after else [.stray]

def dropTrailingNewlines (marks : List Mark) : List Mark :=
  (marks.reverse.dropWhile fun | .newline => true | _ => false).reverse

def marksOf (nesting : Option Nat) (text : List Char) : List Mark :=
  let unified := Text.unifyNewlines text
  let start := unified.dropWhile fun c => c == ' ' || c == '\t'
  dropTrailingNewlines (marksFrom nesting (2 * start.length + 2) 0 true start)

end Workbench.Formula
