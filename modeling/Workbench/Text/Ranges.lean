/-! Sets of characters given as inclusive ranges of code points. -/

set_option autoImplicit false

namespace Workbench.Text

/-- A text by the code points of its characters. Unlike a `String` it may hold halves of surrogate
pairs, which no character has for its code. -/
abbrev Codes := List Nat

def codes (text : String) : Codes := text.toList.map Char.toNat

abbrev Ranges := List (Nat × Nat)

namespace Ranges

def holds (ranges : Ranges) (code : Nat) : Bool :=
  ranges.any fun range => range.1 ≤ code && code ≤ range.2

def contains (ranges : Ranges) (c : Char) : Bool := ranges.holds c.toNat

def offset? (ranges : Ranges) (code : Nat) : Option Nat :=
  (ranges.find? fun range => range.1 ≤ code && code ≤ range.2).map (code - ·.1)

end Ranges

end Workbench.Text
