import Workbench.Window.State

/-! The menu of pages: the button of the page that is shown looks selected. -/

set_option autoImplicit false

namespace Workbench.Window

open Toolkit

def menuButtons : List String := form.buttonsIn "topMenu"

def select (button : String) (window : Window) : Window :=
  window.restyle button (window.settings.select (window.styleOf button))

def deselect (button : String) (window : Window) : Window :=
  window.restyle button (window.settings.deselect (window.styleOf button))

def selectButton (name : String) (window : Window) : Window :=
  (menuButtons.filter (· == name)).foldl (fun window button => window.select button) window

def deselectOthers (name : String) (window : Window) : Window :=
  (menuButtons.filter (· != name)).foldl (fun window button => window.deselect button) window

def pageOf? (button : String) : Option String :=
  match button with
  | "btn_compiler" => some "compiler"
  | "btn_home" => some "home"
  | "btn_widgets" => some "widgets"
  | _ => none

def showPage (page : String) (window : Window) : Window :=
  window.request (.on "stackedWidget" "setCurrentWidget" [.object page])

def choosePage (button : String) (window : Window) : Window :=
  let window := match pageOf? button with
    | some page => ((window.showPage page).deselectOthers button).select button
    | none => window
  window.print ("Button \"" ++ button ++ "\" pressed!")

end Workbench.Window
