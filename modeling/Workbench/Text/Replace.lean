/-! Replacing every occurrence of one text in another. -/

set_option autoImplicit false

namespace Workbench.Text

def interleave (new : List Char) : List Char → List Char
  | [] => new
  | c :: rest => new ++ c :: interleave new rest

/-- Replaces the occurrences of a non-empty text from left to right; they do not overlap. The first
argument counts the characters of an occurrence that are still to be dropped. -/
def replaceFrom (old new : List Char) : Nat → List Char → List Char
  | _, [] => []
  | drop + 1, _ :: rest => replaceFrom old new drop rest
  | 0, c :: rest =>
    if old.isPrefixOf (c :: rest) then new ++ replaceFrom old new (old.length - 1) rest
    else c :: replaceFrom old new 0 rest

/-- An empty text occurs before every character and at the end. -/
def replace (old new text : List Char) : List Char :=
  if old.isEmpty then interleave new text else replaceFrom old new 0 text

end Workbench.Text
