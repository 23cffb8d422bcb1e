import Workbench.Text.Classes

/-! The patterns of the token table. A pattern sees the character in front of the place where it is
tried, and takes a prefix of what follows. -/

set_option autoImplicit false

namespace Workbench

inductive Pattern where
  /-- One of some words, standing alone. -/
  | words (spellings : List String)
  /-- One of some spellings, the first that fits. -/
  | signs (spellings : List String)
  | blanks
  | identifier
  | real
  | integer
  | quotation
  deriving DecidableEq, Repr

namespace Pattern

def isSpace (c : Char) : Bool := c == ' ' || c == '\n' || c == '\t'

def startsName (c : Char) : Bool := c.isAlpha || c == '_'

def continuesName (c : Char) : Bool := c.isAlphanum || c == '_'

/-- A place is a word boundary in front of a word character unless another one precedes it. -/
def standsAlone (before : Option Char) (word rest : List Char) : Bool :=
  !before.any Text.isWord && word.isPrefixOf rest && !(rest.drop word.length).head?.any Text.isWord

def closingQuote : List Char → Option (List Char)
  | [] => none
  | c :: rest =>
    if c == '"' then some [c]
    else if c == '\n' then none
    else (closingQuote rest).map (c :: ·)

/-- The non-empty prefix of `rest` that a pattern takes. -/
def lexeme? (before : Option Char) (rest : List Char) : Pattern → Option (List Char)
  | words spellings =>
    (spellings.find? fun word => standsAlone before word.toList rest).map (·.toList)
  | signs spellings => (spellings.find? fun sign => sign.toList.isPrefixOf rest).map (·.toList)
  | blanks =>
    match rest.takeWhile isSpace with
    | [] => none
    | run => some run
  | identifier =>
    match rest with
    | [] => none
    | c :: tail => if startsName c then some (c :: tail.takeWhile continuesName) else none
  | real =>
    match rest.takeWhile Text.isDecimal, rest.dropWhile Text.isDecimal with
    | [], _ => none
    | whole, '.' :: tail =>
      match tail.takeWhile Text.isDecimal with
      | [] => none
      | fraction => some (whole ++ '.' :: fraction)
    | _, _ => none
  | integer =>
    match rest.takeWhile Text.isDecimal with
    | [] => none
    | digits => some digits
  | quotation =>
    match rest with
    | '"' :: tail => (closingQuote tail).map ('"' :: ·)
    | _ => none

def escapeSign (c : Char) : List Char :=
  if ['+', '*', '|', '(', ')', '\x7b', '\x7d'].contains c then ['\\', c] else [c]

def expression : Pattern → String
  | words spellings => "|".intercalate (spellings.map fun word => "\\b" ++ word ++ "\\b")
  | signs spellings =>
    "|".intercalate (spellings.map fun sign => String.ofList (sign.toList.flatMap escapeSign))
  | blanks => "[ \\n\\t]+"
  | identifier => "[A-Za-z_][A-Za-z0-9_]*"
  | real => "\\d+\\.\\d+"
  | integer => "\\d+"
  | quotation => "\\\".*?\\\""

end Pattern

end Workbench
