import Workbench.Table
import Workbench.Text.Quoted
import Workbench.Token

/-! Declarations, uses and types of variables. The analyser keeps what has been declared so far and
the faults found; it never takes a declaration back. -/

set_option autoImplicit false

namespace Workbench

inductive TypeName where
  | int
  | float
  | whole
  | real
  | other (label : String) (unlisted : label ∉ ["int", "float", "entero", "real"])
  deriving DecidableEq, Repr

namespace TypeName

def label : TypeName → String
  | int => "int"
  | float => "float"
  | whole => "entero"
  | real => "real"
  | other label _ => label

def ofLabel (label : String) : TypeName :=
  if listed : label ∈ ["int", "float", "entero", "real"] then
    if label == "int" then int
    else if label == "float" then float
    else if label == "entero" then whole
    else real
  else other label listed

theorem ofLabel_label (type : TypeName) : ofLabel type.label = type := by
  cases type with
  | other label unlisted => exact dif_neg unlisted
  | int | float | whole | real => rfl

def settle : TypeName → TypeName
  | whole => int
  | real => float
  | type => type

/-- Whether there is a type to compare with: an empty label names none. -/
def isGiven : Option TypeName → Bool
  | none => false
  | some type => type.label != ""

def describe (type : Option TypeName) : String := orNone (type.map label)

end TypeName

inductive SemanticError where
  | redeclared (name : String)
  | undeclared (name : String)
  /-- A value of another type than the declared one. -/
  | unexpected (name : String) (declared : TypeName) (found : Option TypeName)
  /-- A `float` for an `int` variable. -/
  | narrowing (name : String)
  /-- An expression whose type neither equals nor widens to the declared one. -/
  | mismatch (name : String) (declared : TypeName) (found : Option TypeName)
  | remark (text : String)
  deriving DecidableEq, Repr

def SemanticError.message : SemanticError → String
  | redeclared name => "Error SEMANTICO: La variable '" ++ name ++ "' ya ha sido declarada."
  | undeclared name => "Error SEMANTICO: La variable '" ++ name ++ "' no ha sido declarada."
  | unexpected name declared found =>
    "Error SEMANTICO: Se esperaba un dato de tipo '" ++ declared.label ++
      "' pero se encontró el siguiente tipo de valor '" ++ TypeName.describe found ++
      "' para la variable '" ++ name ++ "'."
  | narrowing name =>
    "Error SEMANTICO: No se puede asignar un valor de tipo 'float' a la variable '" ++ name ++
      "' de tipo 'int'."
  | mismatch name declared found =>
    "Error SEMANTICO: El tipo de la expresión ('" ++ TypeName.describe found ++
      "') no coincide con el tipo de la variable '" ++ name ++ "' ('" ++ declared.label ++ "')"
  | remark text => text

/-- A statement as the analyser goes through it. Fields that are absent are only missed when read. -/
structure Entry where
  action : Option String := none
  name : Option String := none
  declared : Option (Option TypeName) := none
  assigned : Option (Option TypeName) := none
  deriving DecidableEq, Repr

def Entry.assignment (name : String) (type : Option TypeName) : Entry :=
  ⟨some "assignment", some name, none, some type⟩

structure MissingField where
  field : String
  deriving DecidableEq, Repr

structure Analyser where
  symbols : Table (Option TypeName) := {}
  errors : List SemanticError := []
  entries : List Entry := []
  deriving DecidableEq, Repr

namespace Analyser

def report (error : SemanticError) (analyser : Analyser) : Analyser :=
  { analyser with errors := analyser.errors ++ [error] }

/-- The first declaration of a name counts; a later one is a fault. -/
def declare (name : String) (type : Option TypeName) (analyser : Analyser) : Analyser :=
  if analyser.symbols.contains name then analyser.report (.redeclared name)
  else { analyser with symbols := analyser.symbols.add name type }

def use (name : String) (analyser : Analyser) : Analyser :=
  if analyser.symbols.contains name then analyser else analyser.report (.undeclared name)

def typeOf (name : String) (analyser : Analyser) : Option TypeName :=
  (analyser.symbols.get? name).join

def expect (name : String) (found : Option TypeName) (analyser : Analyser) : Analyser :=
  match analyser.typeOf name with
  | none => analyser
  | some declared =>
    if TypeName.isGiven (some declared) && some declared != found then
      analyser.report (.unexpected name declared found)
    else analyser

/-- An `int` may go where a `float` is declared, and nothing else may differ. -/
def assign (name : String) (found : Option TypeName) (analyser : Analyser) : Analyser :=
  match analyser.typeOf name with
  | none => analyser
  | some declared =>
    if !TypeName.isGiven (some declared) || some declared == found then analyser
    else if declared == .int && found == some .float then analyser.report (.narrowing name)
    else if declared == .float && found == some .int then analyser
    else analyser.report (.mismatch name declared found)

def useNotes (name : String) (analyser : Analyser) : List String :=
  let known := analyser.symbols.contains name
  ("check_variable | variable a checar -> " ++ name ++ ", name not in self.symbol_table -> " ++
      (if known then "False" else "True")) ::
    (if known then []
     else [Text.listed ((analyser.use name).errors.map fun error => Text.quoted error.message)])

end Analyser

/-- The outcome of going through entries: what was left behind and what was said on the way. -/
structure Analysis where
  outcome : Except MissingField Unit
  analyser : Analyser
  notes : List String

namespace Analyser

def analyseEntry (entry : Entry) (analyser : Analyser) : Analysis :=
  match entry.action with
  | none => ⟨.error ⟨"type"⟩, analyser, []⟩
  | some "declaration" =>
    match entry.name, entry.declared with
    | none, _ => ⟨.error ⟨"name"⟩, analyser, []⟩
    | some _, none => ⟨.error ⟨"var_type"⟩, analyser, []⟩
    | some name, some type => ⟨.ok (), analyser.declare name type, []⟩
  | some "assignment" =>
    match entry.name with
    | none => ⟨.error ⟨"name"⟩, analyser, []⟩
    | some name =>
      let used := analyser.use name
      let notes := analyser.useNotes name
      match entry.assigned with
      | none => ⟨.error ⟨"expression_type"⟩, used, notes⟩
      | some type =>
        ⟨.ok (), if TypeName.isGiven type then used.expect name type else used, notes⟩
  | some _ => ⟨.ok (), analyser, []⟩

def analyseAll : List Entry → Analyser → Analysis
  | [], analyser => ⟨.ok (), analyser, []⟩
  | entry :: rest, analyser =>
    let first := analyser.analyseEntry entry
    match first.outcome with
    | .error missing => ⟨.error missing, first.analyser, first.notes⟩
    | .ok () =>
      let others := analyseAll rest first.analyser
      ⟨others.outcome, others.analyser, first.notes ++ others.notes⟩

def analyse (analyser : Analyser) : Analysis := analyser.analyseAll analyser.entries

end Analyser

end Workbench
