import Workbench.Formula.Eval
import Workbench.Script.Reader
import Workbench.Text.Replace

/-! Running records. Variables are put into an expression as text, one after the other, and the
resulting formula is evaluated. A run that fails keeps what it did before. -/

set_option autoImplicit false

namespace Workbench

def Number.text? : Number → Option String
  | .int n => if Number.tenTo Formula.digitLimit ≤ n.natAbs then none else some (toString n)
  | .float x => some (Number.renderFloat x)

inductive RunError where
  | missing (field : MissingField)
  | undefinedVariable (name : String)
  | evaluation (expression : String) (fault : Formula.Fault)
  | tooLong
  deriving DecidableEq, Repr

def RunError.message : RunError → String
  | missing field => "'" ++ field.field ++ "'"
  | undefinedVariable name => "Error: La variable '" ++ name ++ "' no está definida."
  | evaluation expression fault =>
    "Error evaluando la expresión '" ++ expression ++ "': " ++ fault.message
  | tooLong => Formula.limitMessage ""

structure Store where
  symbols : Table Number := {}
  output : List String := []

namespace Store

def textOf (value : Number) : Except RunError String :=
  value.text?.elim (throw .tooLong) pure

/-- Replaces each name by the text of its value, in order, each over the result of the last. -/
def substitute : List (String × Number) → String → Except RunError String
  | [], expression => pure expression
  | (name, value) :: rest, expression => do
    let text ← textOf value
    substitute rest (String.ofList (Text.replace name.toList text.toList expression.toList))

def viewOf (record : Record) : List (Formula.Value × Formula.Value) :=
  [("type", record.action), ("name", record.name), ("var_type", record.varType),
    ("expression_type", record.expression)].filterMap fun (field, content) =>
      content.map fun content => (.text (Text.codes field), .text (Text.codes content))

/-- The running program as an expression sees it under the name `self`: the records that it runs, its variables and what
it has printed. They are copies, so that what an expression does to them does not last. -/
def view (held : List Record) (store : Store) : List Formula.Object × Formula.Value :=
  let records := held.length
  let symbols := store.symbols.entries.map fun (name, value) =>
    (Formula.Value.text (Text.codes name),
      match value with
      | .int n => Formula.Value.int n
      | .float x => .float x)
  (held.map (fun record => .mapping (viewOf record)) ++
    [.list ((List.range records).map .mapping), .mapping symbols,
      .list (store.output.map fun line => .text (Text.codes line)),
      .parts [("symbol_table", .mapping (records + 1)), ("declarations", .list records), ("output", .list (records + 2))]],
    .object "Interpreter" (records + 3))

/-- The names that are known besides the variables: `expr` is the expression itself, `var` the last variable, and `self`
the running program, which is only made where the expression has its name in it. -/
def setting (held : List Record) (store : Store) (expression : String) : Formula.World :=
  let known := ("expr", .text (Text.codes expression)) ::
    (store.symbols.names.getLast?.map fun last => ("var", Formula.Value.text (Text.codes last))).toList
  if Formula.occursIn "self".toList expression.toList then
    let (objects, program) := view held store
    { objects := objects.toArray, named := ("self", program) :: known }
  else { named := known }

end Store

/-- How an expression is evaluated when the variables have been put in: it may look at the records that are run and at the
store, and may leave another store. -/
abbrev Evaluator := List Record → Store → String → Except Formula.Fault (Number × Store)

def Evaluator.within (limits : Formula.Limits) : Evaluator := fun held store expression => do
  return (← Formula.evaluateWithin limits (store.setting held expression) expression, store)

def Evaluator.standard : Evaluator := .within .standard

namespace Store

def evaluate (evaluator : Evaluator) (held : List Record) (store : Store) (expression : String) :
    Except RunError (Number × Store) := do
  let expression ← substitute store.symbols.entries expression
  match evaluator held store expression with
  | .ok found => pure found
  | .error fault => throw (.evaluation expression fault)

def require {α : Type} : Except MissingField α → Except RunError α
  | .ok value => pure value
  | .error field => throw (.missing field)

/-- A declared variable starts at zero, and unless it is an `int` at a `float` zero. -/
def declare (record : Record) (store : Store) : Except RunError Store := do
  let name ← require record.requireName
  let varType ← require record.requireVarType
  let value : Number := if varType == "int" then .int 0 else .float 0.0
  return { store with symbols := store.symbols.put name value }

def assign (evaluator : Evaluator) (held : List Record) (record : Record) (store : Store) : Except RunError Store := do
  let name ← require record.requireName
  let expression ← require record.requireExpression
  let (value, store) ← store.evaluate evaluator held expression
  return { store with symbols := store.symbols.put name value }

def print (record : Record) (store : Store) : Except RunError Store := do
  let name ← require record.requireName
  match store.symbols.get? name with
  | none => throw (.undefinedVariable name)
  | some value =>
    let text ← textOf value
    return { store with output := store.output ++ [name ++ " = " ++ text] }

/-- A record of any other action does nothing. -/
def step (evaluator : Evaluator) (held : List Record) (record : Record) (store : Store) : Except RunError Store := do
  let action ← require record.requireAction
  if action == "declaration" then store.declare record
  else if action == "assignment" then store.assign evaluator held record
  else if action == "print" then store.print record
  else return store

def result (store : Store) : String := "\n".intercalate store.output

end Store

/-- How far a run came: the error that stopped it, if any, and the store it left. -/
structure Run where
  error : Option RunError
  store : Store

def Run.over (evaluator : Evaluator) (held : List Record) : List Record → Store → Run
  | [], store => ⟨none, store⟩
  | record :: rest, store =>
    match store.step evaluator held record with
    | .error error => ⟨some error, store⟩
    | .ok store => Run.over evaluator held rest store

def Run.start (records : List Record) (store : Store) : Run := .over .standard records records store

def Run.outcome (run : Run) : Except RunError Store :=
  match run.error with
  | some error => throw error
  | none => pure run.store

def interpretBy (evaluator : Evaluator) (source : String) : Except RunError Store :=
  (Run.over evaluator (Record.ofSource source) (Record.ofSource source) {}).outcome

def interpret (source : String) : Except RunError Store := interpretBy .standard source

end Workbench
