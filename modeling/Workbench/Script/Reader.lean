import Workbench.Script.Record
import Workbench.Text.Lines

/-! Reading records from source lines. Each line is tried as a declaration with a value, a
declaration, an assignment and a print, in this order; a line that is none of them is passed over. -/

set_option autoImplicit false

namespace Workbench

inductive Line where
  | initialized (varType name expression : List Char)
  | declared (varType name : List Char)
  | assigned (name expression : List Char)
  | printed (name : List Char)
  deriving DecidableEq, Repr

namespace Line

def typeWords : List (List Char) := ["int".toList, "float".toList, "double".toList, "char".toList]

def name? (text : List Char) : Option (List Char × List Char) :=
  match text.takeWhile Text.isWord with
  | [] => none
  | name => some (name, text.dropWhile Text.isWord)

/-- A type word, at least one blank, a name, and what follows. -/
def typedName? (text : List Char) : Option (List Char × List Char × List Char) := do
  let word ← typeWords.find? fun word => word.isPrefixOf text
  let rest := text.drop word.length
  if rest.head?.any Text.isBlank then
    let (name, after) ← name? (Text.trimStart rest)
    return (word, name, after)
  else none

def beforeLastSemicolon? (text : List Char) : Option (List Char) :=
  match text.reverse.dropWhile (· != ';') with
  | [] => none
  | _ :: rest => some rest.reverse

/-- The expression after an equals sign, up to the last semicolon. Blanks before it are dropped; if
nothing else stands there, the last blank is the expression. -/
def value? (text : List Char) : Option (List Char) := do
  match text.dropWhile Text.isBlank with
  | '=' :: rest =>
    let blanks := rest.takeWhile Text.isBlank
    match ← beforeLastSemicolon? (rest.dropWhile Text.isBlank) with
    | [] => blanks.getLast?.map ([·])
    | expression => some expression
  | _ => none

def initialized? (text : List Char) : Option Line := do
  let (varType, name, rest) ← typedName? text
  return .initialized varType name (← value? rest)

def declared? (text : List Char) : Option Line := do
  let (varType, name, rest) ← typedName? text
  if rest.head? == some ';' then some (.declared varType name) else none

def assigned? (text : List Char) : Option Line := do
  let (name, rest) ← name? text
  return .assigned name (← value? rest)

def printed? (text : List Char) : Option Line := do
  if "print(".toList.isPrefixOf text then
    let (name, rest) ← name? (text.drop 6)
    if ");".toList.isPrefixOf rest then some (.printed name) else none
  else none

def parse? (text : List Char) : Option Line :=
  initialized? text <|> declared? text <|> assigned? text <|> printed? text

end Line

namespace Record

def ofLine (types : Table String) : Line → List Record × Table String
  | .initialized varType name expression =>
    let varType := String.ofList varType
    let name := String.ofList name
    ([declaration name varType, assignment name varType (String.ofList expression)],
      types.put name varType)
  | .declared varType name =>
    let varType := String.ofList varType
    let name := String.ofList name
    ([declaration name varType], types.put name varType)
  | .assigned name expression =>
    let name := String.ofList name
    ([assignment name ((types.get? name).getD "int") (String.ofList expression)], types)
  | .printed name =>
    let name := String.ofList name
    ([print name ((types.get? name).getD "unknown")], types)

/-- The records of some lines. A variable has the type it was last declared with; before that an
assignment takes it for an `int`, and a print does not know. -/
def ofLines (types : Table String) : List (List Char) → List Record
  | [] => []
  | text :: rest =>
    match Line.parse? (Text.trim text) with
    | none => ofLines types rest
    | some line =>
      let (records, types) := ofLine types line
      records ++ ofLines types rest

def ofSource (source : String) : List Record :=
  ofLines {} (Text.splitLines (Text.trim source.toList))

end Record

end Workbench
