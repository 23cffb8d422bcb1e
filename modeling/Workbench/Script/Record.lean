import Workbench.Check
import Workbench.Datum

/-! A program as the back ends see it: a list of records, one for each thing to do. -/

set_option autoImplicit false

namespace Workbench

/-- A record of a declaration, an assignment or a print. A field that is absent is only missed when
it is read. -/
structure Record where
  action : Option String := none
  name : Option String := none
  varType : Option String := none
  expression : Option String := none
  /-- The value written next to a `float` variable. -/
  initial : Option Datum := none

namespace Record

def declaration (name varType : String) : Record :=
  { action := some "declaration", name := some name, varType := some varType }

def assignment (name varType expression : String) : Record :=
  { action := some "assignment", name := some name, varType := some varType
    expression := some expression }

def print (name varType : String) : Record :=
  { action := some "print", name := some name, varType := some varType }

def requireAction (record : Record) : Except MissingField String :=
  record.action.elim (throw ⟨"type"⟩) pure

def requireName (record : Record) : Except MissingField String :=
  record.name.elim (throw ⟨"name"⟩) pure

def requireVarType (record : Record) : Except MissingField String :=
  record.varType.elim (throw ⟨"var_type"⟩) pure

def requireExpression (record : Record) : Except MissingField String :=
  record.expression.elim (throw ⟨"expression_type"⟩) pure

end Record

end Workbench
