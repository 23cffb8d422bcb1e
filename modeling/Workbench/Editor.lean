import Workbench.Pipeline
import Workbench.SourceFile

/-! The working state behind the main window: the text being edited, the file it goes with, and what
the last compilation showed. -/

set_option autoImplicit false

namespace Workbench

structure Editor where
  text : String := ""
  file : SourceFile Empty := {}
  session : Session := {}
  rows : List Token := []
  messages : List Message := []
  results : Option Results := none
  dialogs : List String := []

namespace Editor

/-- Compiles the text. The token table, the messages and the results are those of this compilation
alone. -/
def compile (editor : Editor) : Except CompileError Unit × Editor :=
  let compilation := Workbench.compile editor.text editor.session
  let editor := { editor with
    session := compilation.session
    rows := compilation.tokens
    messages := compilation.messages
    results := none }
  match compilation.outcome with
  | .error error => (.error error, editor)
  | .ok results => (.ok (), { editor with results := results })

def openFile (path : String) (disk : Disk) (editor : Editor) : Editor :=
  match SourceFile.load? path disk with
  | some file =>
    { editor with
      file := file
      text := String.join (file.lines.filterMap Content.text?)
      dialogs := [] }
  | none => { editor with dialogs := ["El archivo no se pudo abrir correctamente"] }

def saveFile (path : String) (disk : Disk) (editor : Editor) : Editor × Disk :=
  let lines := (Text.splitLines editor.text.toList).map fun line => Content.text (String.ofList line)
  let file := editor.file.setLines (some lines)
  let (saved, disk) := file.save path disk
  let notice := if saved then "Archivo guardado exitosamente"
    else "El archivo no se pudo guardar en la ubicacion seleccionada"
  ({ editor with file := file, dialogs := [notice] }, disk)

def row (token : Token) : List String :=
  [token.lexeme, orNone token.kind.label, orNone (token.number.map toString)]

end Editor

end Workbench
