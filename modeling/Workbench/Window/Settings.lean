import Workbench.Text.Replace
import Workbench.Toolkit

/-! The settings of the window's looks, and what they make of style sheets. -/

set_option autoImplicit false

namespace Workbench

open Toolkit

/-- The style of a selected menu button, indented as it stands in its sheet. -/
def selectedLook (indent colour : String) : String :=
  "\n" ++ indent ++ "border-left: 22px solid qlineargradient(spread:pad, x1:0.034, y1:0, x2:0.216, " ++
    "y2:0, stop:0.499 rgba(255, 121, 198, 255), stop:0.5 rgba(85, 170, 255, 0));\n" ++
    indent ++ "background-color: " ++ colour ++ ";\n" ++ indent

structure Settings where
  customTitleBar : Bool := true
  menuWidth : Int := 240
  leftBoxWidth : Int := 240
  rightBoxWidth : Int := 240
  /-- Milliseconds that a box takes to open. -/
  animationTime : Int := 500
  leftBoxColour : String := "background-color: rgb(44, 49, 58);"
  rightBoxColour : String := "background-color: #ff79c6;"
  selected : String := selectedLook "    " "rgb(40, 44, 52)"
  deriving DecidableEq, Repr

namespace Settings

def entries (settings : Settings) : List (String × Value) := [
  ("ENABLE_CUSTOM_TITLE_BAR", .flag settings.customTitleBar),
  ("MENU_WIDTH", .int settings.menuWidth),
  ("LEFT_BOX_WIDTH", .int settings.leftBoxWidth),
  ("RIGHT_BOX_WIDTH", .int settings.rightBoxWidth),
  ("TIME_ANIMATION", .int settings.animationTime),
  ("BTN_LEFT_BOX_COLOR", .text settings.leftBoxColour),
  ("BTN_RIGHT_BOX_COLOR", .text settings.rightBoxColour),
  ("MENU_SELECTED_STYLESHEET", .text settings.selected)]

def secondTheme (settings : Settings) : Settings :=
  { settings with
    leftBoxColour := "background-color: #495474;"
    rightBoxColour := "background-color: #495474;"
    selected := selectedLook "        " "#566388" }

def without (text style : String) : String :=
  String.ofList (Text.replace text.toList [] style.toList)

def select (settings : Settings) (style : String) : String := style ++ settings.selected

def deselect (settings : Settings) (style : String) : String := without settings.selected style

end Settings

end Workbench
