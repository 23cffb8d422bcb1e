import Workbench.Token.Report
import Workbench.Window.Boxes
import Workbench.Window.Menu
import Workbench.Window.Shell

/-! The main window: how it comes up, and what clicks and other events do. -/

set_option autoImplicit false

namespace Workbench.Window

open Toolkit

inductive Fault where
  /-- The left box was not to be toggled, so its width was not looked at. -/
  | widthNotRead
  /-- The window was to be dragged before the mouse was pressed. -/
  | notPressed
  | noFile (path : String)
  deriving DecidableEq, Repr

def Fault.message : Fault → String
  | .widthNotRead => "cannot access local variable 'width' where it is not associated with a value"
  | .notPressed => "'MainWindow' object has no attribute 'dragPos'"
  | .noFile path => "[Errno 2] No such file or directory: " ++ Text.quoted path

def writeCalls (look : Value) (text : String) : List Call :=
  let cursor : Option Value := some (.reply (.object "message_output") "textCursor" [])
  [⟨cursor, "movePosition", [.constant "QTextCursor.End"]⟩, ⟨cursor, "setCharFormat", [look]⟩,
    ⟨cursor, "insertText", [.text text]⟩]

def look (message : Message) : Value :=
  let colour : List Value := if message.isFault then [.int 230, .int 25, .int 25] else [.text "green"]
  .unnamed "QTextCharFormat" [] [("setForeground", [.unnamed "QColor" colour []])]

def messageCalls (message : Message) : List Call := writeCalls (look message) (message.text ++ "\n")

def rowCalls (row : Nat) (token : Token) : List Call :=
  (Editor.row token).mapIdx fun column text =>
    .on "lexical_analizer_table" "setItem"
      [.int row, .int column, .unnamed "QTableWidgetItem" [.text text] []]

def compileReport (source : String) : List String :=
  let lexed := lex source
  lexReport source ++
    if lexed.errors.isEmpty then (Syntax.program (.ofTokens lexed.tokens)).next.notes.toList else []

def compile (window : Window) : Window :=
  let (_, editor) := window.editor.compile
  let window := window.requests
    ([.on "message_output" "clear", .on "lexical_analizer_table" "setRowCount" [.int editor.rows.length]] ++
      (editor.rows.mapIdx rowCalls).flatten ++ editor.messages.flatMap messageCalls)
  { window with
    editor := editor
    printed := window.printed ++ compileReport editor.text }

/-- What a click on a button does. The file actions wait for a dialog, which asks for nothing of the
form. -/
def perform (button : String) (action : Action) (window : Window) : Window :=
  match action with
  | .unfoldMenu => window.unfoldMenu
  | .minimise => window.request (.on "window" "showMinimized")
  | .maximiseOrRestore => window.maximiseOrRestore
  | .close => window.request (.on "window" "close")
  | .choosePage => window.choosePage button
  | .compile => window.compile
  | .openFile | .saveFile => window

/-- A click does all that it was bound to, in the order in which that was done. -/
def click (button : String) (window : Window) : Window :=
  (window.clicks.filter (·.1 == button)).foldl
    (fun window binding => window.perform button binding.2) window

def title : String := "Compilador - SSPTL2"

def description : String := "Compilador - Proyecto desarrollado para la clase de SSPTL2"

def bindMenu (window : Window) : Window :=
  [("btn_openFile", Action.openFile), ("btn_saveFile", .saveFile), ("btn_generate_code", .compile),
    ("btn_home", .choosePage), ("btn_widgets", .choosePage), ("btn_compiler", .choosePage)].foldl
    (fun window binding => window.whenClicked binding.1 binding.2) window

def clearTokens : List Call := [
  .on "lexical_analizer_table" "clear",
  .on "lexical_analizer_table" "setColumnCount" [.int 3],
  .on "lexical_analizer_table" "setHorizontalHeaderLabels"
    [.list [.text "Lexema", .text "Token", .text "Tipo"]],
  .on "lexical_analizer_table" "setRowCount" [.int 0]]

/-- The window once it is shown: its buttons are bound, and the welcome page is selected. -/
def start (position : Point := ⟨0, 0⟩) : Window :=
  let window := (ofForm position).requests
    [.on "window" "setWindowTitle" [.text title], .on "titleRightInfo" "setText" [.text description]]
  let window := (window.whenClicked "toggleButton" .unfoldMenu).define.request
    ⟨some (.reply (.object "tableWidget") "horizontalHeader" []), "setSectionResizeMode",
      [.constant "QHeaderView.Stretch"]⟩
  (((window.bindMenu.request (.on "window" "show")).showPage "home").select "btn_home").requests clearTokens

def unfoldMenuIf (enable : Bool) (window : Window) : Window :=
  if enable then window.unfoldMenu else window

/-- The left box needs its width in any case, and looks at it only if it is to be toggled. -/
def toggleLeftBoxIf (enable : Bool) (window : Window) : Except Fault Window :=
  if enable then pure window.toggleLeftBox else throw .widthNotRead

def toggleRightBoxIf (enable : Bool) (window : Window) : Window :=
  if enable then window.toggleRightBox else window

def applyTheme (path : String) (enable : Bool) (disk : Disk) (window : Window) : Except Fault Window :=
  if enable then
    match disk.readText? path with
    | some text => pure (window.restyle "styleSheet" (String.ofList text))
    | none => throw (.noFile path)
  else pure window

/-- The mouse moves over the title; the answer says whether the window went along. A fault may come
after the window was restored. -/
def moveOverTitle (point : Point) (held : Bool) (window : Window) : Except Fault Bool × Window :=
  let window := window.leaveMaximised
  if held then
    match window.drag? point with
    | some moved => (pure true, moved)
    | none => (throw .notPressed, window)
  else (pure false, window)

def clickTitle (isDouble : Bool) (window : Window) : Window :=
  if isDouble then window.doubleClickTitle else window

def redefine (customTitleBar : Bool) (window : Window) : Window :=
  define { window with settings := { window.settings with customTitleBar := customTitleBar } }

def secondThemeStyles : List (String × String) :=
  let field := "background-color: #6272a4;"
  let bars := "QScrollBar:vertical \x7b background: #6272a4; \x7d QScrollBar:horizontal \x7b background: #6272a4; \x7d"
  [("lineEdit", field), ("pushButton", field), ("plainTextEdit", field), ("tableWidget", bars),
    ("scrollArea", bars), ("comboBox", field), ("horizontalScrollBar", field),
    ("verticalScrollBar", field), ("commandLinkButton", "color: #ff79c6;")]

def useSecondTheme (window : Window) : Window :=
  secondThemeStyles.foldl (fun window part => window.restyle part.1 part.2)
    { window with settings := window.settings.secondTheme }

end Workbench.Window
