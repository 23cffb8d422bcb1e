import Workbench.Text.Ranges

/-! Looking for a part of a text, and cutting texts at the places where it stands. Occurrences are taken
from one end and do not overlap; a limit says how many of them count. -/

set_option autoImplicit false

namespace Workbench.Text

def findFrom (part : Codes) : Nat → Codes → Option Nat
  | start, [] => if part.isEmpty then some start else none
  | start, c :: rest =>
    if part.isPrefixOf (c :: rest) then some start else findFrom part (start + 1) rest

def find? (part text : Codes) : Option Nat := findFrom part 0 text

def findLast? (part text : Codes) : Option Nat :=
  (find? part.reverse text.reverse).map fun start => text.length - start - part.length

def someLeft (limit : Option Nat) : Bool := limit != some 0

def piecesWithin (part : Codes) : Nat → Option Nat → Codes → List Codes
  | 0, _, text => [text]
  | fuel + 1, limit, text =>
    match if someLeft limit then find? part text else none with
    | none => [text]
    | some start =>
      text.take start ::
        piecesWithin part fuel (limit.map (· - 1)) (text.drop (start + part.length))

def pieces (part : Codes) (limit : Option Nat) (text : Codes) : List Codes :=
  piecesWithin part (text.length + 1) limit text

def piecesFromEnd (part : Codes) (limit : Option Nat) (text : Codes) : List Codes :=
  ((pieces part.reverse limit text.reverse).map List.reverse).reverse

/-- How often a part occurs; an empty one stands before every character and at the end. -/
def occurrences (part text : Codes) : Nat :=
  if part.isEmpty then text.length + 1 else (pieces part none text).length - 1

/-- The runs of characters between blanks; once the limit is reached, all that follows. `fuel` bounds
their number. -/
def wordsWithin (blank : Nat → Bool) : Nat → Option Nat → Codes → List Codes
  | 0, _, _ => []
  | fuel + 1, limit, text =>
    match text.dropWhile blank with
    | [] => []
    | rest =>
      if someLeft limit then
        rest.takeWhile (fun code => !blank code) ::
          wordsWithin blank fuel (limit.map (· - 1)) (rest.dropWhile fun code => !blank code)
      else [rest]

def words (blank : Nat → Bool) (limit : Option Nat) (text : Codes) : List Codes :=
  wordsWithin blank (text.length + 1) limit text

def wordsFromEnd (blank : Nat → Bool) (limit : Option Nat) (text : Codes) : List Codes :=
  ((words blank limit text.reverse).map List.reverse).reverse

/-- A text with a number of occurrences of a part replaced. An empty part stands before every
character and at the end. -/
def replaceUpTo (old new : Codes) (limit : Option Nat) (text : Codes) : Codes :=
  if old.isEmpty then spread limit text
  else (List.intersperse new (pieces old limit text)).flatten
where
  spread : Option Nat → Codes → Codes
    | limit, [] => if someLeft limit then new else []
    | limit, c :: rest =>
      if someLeft limit then new ++ c :: spread (limit.map (· - 1)) rest else c :: rest

def dropEndWhile (drops : Nat → Bool) (text : Codes) : Codes :=
  (text.reverse.dropWhile drops).reverse

def codeLines (ends : Nat → Bool) (keep : Bool) : Codes → List Codes
  | [] => []
  | 0xD :: 0xA :: rest => (if keep then [0xD, 0xA] else []) :: codeLines ends keep rest
  | c :: rest =>
    if ends c then (if keep then [c] else []) :: codeLines ends keep rest
    else match rest with
      | [] => [[c]]
      | _ =>
        match codeLines ends keep rest with
        | [] => [[c]]
        | line :: more => (c :: line) :: more

def expandTabs (width : Nat) : Nat → Codes → Codes
  | _, [] => []
  | column, c :: rest =>
    if c == 0x9 then
      let count := if width == 0 then 0 else width - column % width
      List.replicate count 0x20 ++ expandTabs width (column + count) rest
    else c :: expandTabs width (if c == 0xA || c == 0xD then 0 else column + 1) rest

end Workbench.Text
