import Workbench.Editor
import Workbench.Form.Catalog
import Workbench.Table
import Workbench.Window.Grip
import Workbench.Window.Settings
import Workbench.Window.Status

/-! The state of the main window, and the requests it makes of the toolkit. -/

set_option autoImplicit false

namespace Workbench

open Toolkit

inductive Action where
  | unfoldMenu
  | minimise
  | maximiseOrRestore
  | close
  | choosePage
  | openFile
  | saveFile
  | compile
  deriving DecidableEq, Repr

def Action.name : Action → String
  | .unfoldMenu | .minimise | .maximiseOrRestore | .close => "<lambda>"
  | .choosePage => "buttonClick"
  | .openFile => "openFileAction"
  | .saveFile => "saveFileAction"
  | .compile => "compilerCode"

structure Point where
  x : Int
  y : Int
  deriving DecidableEq, Repr

structure Window where
  settings : Settings := {}
  status : Status := .flag false
  position : Point := ⟨0, 0⟩
  width : Int
  height : Int
  /-- The widths that objects were given; all others have none. -/
  widths : Table Int := {}
  /-- The style sheets that objects were given since the form was set up. -/
  styles : Table String := {}
  /-- What clicks are bound to, in the order in which that was done. -/
  clicks : List (String × Action) := []
  /-- How many double clicks on the title wait to take effect. -/
  waiting : Nat := 0
  /-- Where the mouse was pressed, or last dragged to. -/
  dragStart : Option Point := none
  editor : Editor := {}
  /-- What was asked of the toolkit. -/
  log : List Call := []
  printed : List String := []

namespace Window

def form : Form := Form.editor

def ofForm (position : Point) : Window where
  position := position
  width := form.size.1
  height := form.size.2

def request (call : Call) (window : Window) : Window := { window with log := window.log ++ [call] }

def requests (calls : List Call) (window : Window) : Window := { window with log := window.log ++ calls }

def print (line : String) (window : Window) : Window := { window with printed := window.printed ++ [line] }

def fresh (window : Window) : Window := { window with log := [], printed := [] }

def widthOf (window : Window) (name : String) : Int := (window.widths.get? name).getD 0

def setWidth (name : String) (width : Int) (window : Window) : Window :=
  if name == "window" then { window with width := width }
  else { window with widths := window.widths.put name width }

/-- Only the height of the window itself is ever looked at. -/
def setHeight (name : String) (height : Int) (window : Window) : Window :=
  if name == "window" then { window with height := height } else window

def styleOf (window : Window) (name : String) : String :=
  (window.styles.get? name).getD (form.styleSheetOf name)

def setStyle (name style : String) (window : Window) : Window :=
  { window with styles := window.styles.put name style }

def restyle (name style : String) (window : Window) : Window :=
  (window.request (.on name "setStyleSheet" [.text style])).setStyle name style

def whenClicked (button : String) (action : Action) (window : Window) : Window :=
  { window.request (.whenClicked button action.name) with clicks := window.clicks ++ [(button, action)] }

end Window

end Workbench
