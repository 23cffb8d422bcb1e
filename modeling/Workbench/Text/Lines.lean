import Workbench.Text.Classes

/-! Three ways of cutting a text: at its line boundaries, at the blanks around it, and at newlines
once every newline is spelled in one way. -/

set_option autoImplicit false

namespace Workbench.Text

def boundaries : Ranges :=
  [(0xA, 0xD), (0x1C, 0x1E), (0x85, 0x85), (0x2028, 0x2029)]

def isBoundary (c : Char) : Bool := boundaries.contains c

/-- The lines of a text without what ends them. A carriage return and the newline after it end one
line, and a boundary at the very end starts no further line. -/
def splitLines : List Char → List (List Char)
  | [] => []
  | '\r' :: '\n' :: rest => [] :: splitLines rest
  | c :: rest =>
    if isBoundary c then [] :: splitLines rest
    else match splitLines rest with
      | [] => [[c]]
      | line :: more => (c :: line) :: more

def trimStart (text : List Char) : List Char := text.dropWhile isBlank

def trimEnd (text : List Char) : List Char := (text.reverse.dropWhile isBlank).reverse

def trim (text : List Char) : List Char := trimEnd (trimStart text)

def unifyNewlines : List Char → List Char
  | [] => []
  | '\r' :: '\n' :: rest => '\n' :: unifyNewlines rest
  | c :: rest => (if c == '\r' then '\n' else c) :: unifyNewlines rest

/-- The newline-terminated lines of a text, each with its newline; the last may lack one. -/
def newlineLines : List Char → List (List Char)
  | [] => []
  | c :: rest =>
    if c == '\n' then [c] :: newlineLines rest
    else match newlineLines rest with
      | [] => [[c]]
      | line :: more => (c :: line) :: more

theorem flatten_newlineLines (text : List Char) : (newlineLines text).flatten = text := by
  induction text with
  | nil => rfl
  | cons c rest ih =>
    by_cases h : c == '\n'
    · simp [newlineLines, h, ih]
    · cases hrest : newlineLines rest with
      | nil => simpa [newlineLines, h, hrest] using ih
      | cons line more => simpa [newlineLines, h, hrest] using ih

end Workbench.Text
