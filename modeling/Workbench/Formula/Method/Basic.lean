import Workbench.Formula.Iteration
import Workbench.Text.Search

/-! What the methods of texts and of byte strings have in common. -/

set_option autoImplicit false

namespace Workbench.Formula

open Text (Codes)

def wordArgument (value : Value) : Except Fault Int :=
  match value.integer? with
  | none => throw (.notIndex value.typeName)
  | some n => if fitsWord n then pure n else throw .wordTooLarge

/-- A number of times, where a negative one is no limit. -/
def limitArgument (value : Option Value) : Except Fault (Option Nat) := do
  match value with
  | none => return none
  | some value =>
    let n ← wordArgument value
    return if n < 0 then none else some n.toNat

def window (codes : Codes) (start stop : Option Value) : Except Fault (Option (Nat × Codes)) := do
  let length := codes.length
  let low := (← boundOf (start.getD .nothing)).getD 0
  let high := (← boundOf (stop.getD .nothing)).getD length
  let low := if low < 0 then max 0 (low + length) else low
  let high := if high < 0 then max 0 (high + length) else min high length
  if high < low then return none
  return some (low.toNat, (codes.take high.toNat).drop low.toNat)

def positionIn (last : Bool) (part : Codes) : Option (Nat × Codes) → Option Nat
  | none => none
  | some (start, codes) =>
    ((if last then Text.findLast? part codes else Text.find? part codes)).map (start + ·)

/-- Filling on both sides up to a width. What cannot be divided evenly goes to the left if the width is
odd. -/
def centered (width : Int) (fill : Nat) (codes : Codes) : Codes :=
  let missing := (width - codes.length).toNat
  let left := missing / 2 + (if missing % 2 == 1 && width % 2 == 1 then 1 else 0)
  List.replicate left fill ++ codes ++ List.replicate (missing - left) fill

def justified (method : String) (width : Int) (fill : Nat) (codes : Codes) : Except Fault Codes :=
  let missing := (width - codes.length).toNat
  if memoryLimit ≤ missing then throw .outOfMemory
  else if method == "center" then pure (centered width fill codes)
  else if method == "ljust" then pure (codes ++ List.replicate missing fill)
  else pure (List.replicate missing fill ++ codes)

def zeroFilled (width : Int) (codes : Codes) : Except Fault Codes :=
  let missing := (width - codes.length).toNat
  if memoryLimit ≤ missing then throw .outOfMemory
  else
    let zeros := List.replicate missing '0'.toNat
    match codes with
    | sign :: rest =>
      if sign == '+'.toNat || sign == '-'.toNat then pure (sign :: zeros ++ rest)
      else pure (zeros ++ codes)
    | [] => pure zeros

def partitioned (last : Bool) (separator codes : Codes) : List Codes :=
  match if last then Text.findLast? separator codes else Text.find? separator codes with
  | some start => [codes.take start, separator, codes.drop (start + separator.length)]
  | none => if last then [[], [], codes] else [codes, [], []]

def stripped (method : String) (drops : Nat → Bool) (codes : Codes) : Codes :=
  let codes := if method == "rstrip" then codes else codes.dropWhile drops
  if method == "lstrip" then codes else Text.dropEndWhile drops codes

def withoutAffix (method : String) (affix codes : Codes) : Codes :=
  if method == "removeprefix" then
    if affix.isPrefixOf codes then codes.drop affix.length else codes
  else if !affix.isEmpty && affix.isSuffixOf codes then codes.take (codes.length - affix.length)
  else codes

def splitUp (method : String) (blank : Nat → Bool) (separator : Option Codes) (limit : Option Nat)
    (codes : Codes) : Except Fault (List Codes) :=
  match separator with
  | none =>
    pure (if method == "rsplit" then Text.wordsFromEnd blank limit codes else Text.words blank limit codes)
  | some [] => throw .emptySeparator
  | some separator =>
    pure (if method == "rsplit" then Text.piecesFromEnd separator limit codes
      else Text.pieces separator limit codes)

def allOfSome (holds : Nat → Bool) (codes : Codes) : Bool := !codes.isEmpty && codes.all holds

def allCased (right wrong : Nat → Bool) (codes : Codes) : Bool :=
  codes.any right && !codes.any wrong

end Workbench.Formula
