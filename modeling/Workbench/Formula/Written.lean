import Workbench.Formula.Members

/-! Values as text: as they would be written in a formula, and as they are shown on their own. -/

set_option autoImplicit false

namespace Workbench.Formula

open Text (Codes codes)

/-- A part of a complex number has no point if it is whole. -/
def partText (x : Float) : String :=
  let text := Number.renderFloat x
  if text.endsWith ".0" then (text.dropEnd 2).toString else text

def complexText (z : Number.Complex) : String :=
  let im := partText z.im
  if z.re.toBits == 0 then im ++ "j"
  else "(" ++ partText z.re ++ (if im.startsWith "-" then "" else "+") ++ im ++ "j)"

def intText (n : Int) : Except Fault String :=
  if Number.tenTo digitLimit ≤ n.natAbs then throw .textOfTooMany else pure (toString n)

def writtenAll (write : Value → Eval String) : List Value → Eval (List String)
  | [] => pure []
  | item :: rest => do
    let text ← write item
    return text :: (← writtenAll write rest)

def writtenEntries (write : Value → Eval String) : List (Value × Value) → Eval (List String)
  | [] => pure []
  | (key, value) :: rest => do
    let left ← write key
    let right ← write value
    return (left ++ ": " ++ right) :: (← writtenEntries write rest)

def commaList (items : List String) : String := ", ".intercalate items

def writtenSimple : Value → Except Fault String
  | .int n => intText n
  | .float x => pure (Number.renderFloat x)
  | .truth b => pure (if b then "True" else "False")
  | .text content => pure (Text.quotedCodes content)
  | .bytes content => pure (Text.quotedBytes content)
  | .nothing => pure "None"
  | .ellipsis => pure "Ellipsis"
  | .unsupported => pure "NotImplemented"
  | .complex z => pure (complexText z)
  | .type word => pure ("<class '" ++ word ++ "'>")
  | .function _ => pure "<function <lambda>>"
  | value => pure ("<" ++ value.typeName ++ " object>")

/-- A value as it is written in a formula. What holds itself is not written again inside; `outer` are
the places of what is being written, and `depth` bounds how far values nest. -/
def writtenWithin : Nat → List Nat → Value → Eval String
  | 0, _, _ => throw .writingTooDeep
  | depth + 1, outer, value =>
    match value with
    | .tuple items => do
      match ← writtenAll (writtenWithin depth outer) items with
      | [single] => return "(" ++ single ++ ",)"
      | texts => return "(" ++ commaList texts ++ ")"
    | .list place => do
      if outer.contains place then return "[...]"
      return "[" ++ commaList (← writtenAll (writtenWithin depth (place :: outer)) (← listAt place)) ++ "]"
    | .set place => do
      match (← setAt place).toList with
      | [] => return "set()"
      | items =>
        return "\x7b" ++ commaList (← writtenAll (writtenWithin depth (place :: outer)) items) ++ "\x7d"
    | .mapping place => do
      if outer.contains place then return "\x7b...\x7d"
      let entries ← writtenEntries (writtenWithin depth (place :: outer)) (← mappingAt place)
      return "\x7b" ++ commaList entries ++ "\x7d"
    | .view view place => do
      let items := (← mappingAt place).map fun (key, content) =>
        match view with
        | .keys => key
        | .values => content
        | .entries => Value.tuple [key, content]
      return value.typeName ++ "([" ++ commaList (← writtenAll (writtenWithin depth outer) items) ++ "])"
    | .slice start stop step => do
      return "slice(" ++ commaList (← writtenAll (writtenWithin depth outer) [start, stop, step]) ++ ")"
    | value => writtenSimple value

def written (value : Value) : Eval String := writtenWithin comparisonDepth [] value

def shown : Value → Eval Codes
  | .text content => pure content
  | value => return codes (← written value)

def asciiOnly (text : Codes) : Codes :=
  text.flatMap fun code => if code < 0x80 then [code] else (Text.codeEscape code).map Char.toNat

def converted (conversion : Conversion) (value : Value) : Eval Codes :=
  match conversion with
  | .shown => shown value
  | .written => return codes (← written value)
  | .ascii => return asciiOnly (codes (← written value))

def missingKey {α : Type} (key : Value) : Eval α := do throw (.missingKey (← written key))

end Workbench.Formula
