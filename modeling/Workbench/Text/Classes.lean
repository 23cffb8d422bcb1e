import Workbench.Text.Letters
import Workbench.Text.Numerals
import Workbench.Text.Unprintable

/-! The character classes that the readers of this library tell apart. All of them are Unicode
classes; on ASCII they are decided without a table. -/

set_option autoImplicit false

namespace Workbench.Text

def isAscii (c : Char) : Bool := c.toNat < 128

def isLetter (c : Char) : Bool :=
  if isAscii c then c.isAlpha else letters.contains c

def isDecimal (c : Char) : Bool :=
  if isAscii c then c.isDigit else decimals.contains c

def isDigit (c : Char) : Bool :=
  isDecimal c || (!isAscii c && scriptDigits.contains c)

/-- A letter, a numeric character of any sort, or the low line. -/
def isWord (c : Char) : Bool :=
  c == '_' || isLetter c || isDigit c || (!isAscii c && otherNumerals.contains c)

def decimalValue? (code : Nat) : Option Nat :=
  if '0'.toNat ≤ code && code ≤ '9'.toNat then some (code - '0'.toNat)
  else (decimals.offset? code).map (· % 10)

def blanks : Ranges :=
  [(0x9, 0xD), (0x1C, 0x20), (0x85, 0x85), (0xA0, 0xA0), (0x1680, 0x1680), (0x2000, 0x200A),
   (0x2028, 0x2029), (0x202F, 0x202F), (0x205F, 0x205F), (0x3000, 0x3000)]

def isBlank (c : Char) : Bool := blanks.contains c

def isPrintable (code : Nat) : Bool :=
  if code < 128 then 0x20 ≤ code && code < 0x7F else !unprintables.holds code

theorem isWord_of_isDecimal {c : Char} (h : isDecimal c = true) : isWord c = true := by
  simp [isWord, isDigit, h]

end Workbench.Text
