import Workbench.Window

/-! The program as a whole: it comes up with its icon, shows the main window, and runs until that is
closed. -/

set_option autoImplicit false

namespace Workbench.Application

open Toolkit

/-- What is asked of the program itself before its window comes up. The words of the command line
follow the program's name. -/
def opening (arguments : List String) : List Call := [
  .on "app" "QApplication" [.list (("main.py" :: arguments).map Value.text)],
  .on "app" "setWindowIcon" [.unnamed "QIcon" [.text "icon.ico"] []]]

def closing : List Call := [.on "app" "exec"]

def calls (arguments : List String) : List Call := opening arguments ++ closing

def run (arguments : List String) : List Call :=
  opening arguments ++ Window.form.setup ++ Window.start.log ++ closing

def exit : Value := .reply (.object "app") "exec" []

def title? (window : Window) : Option String :=
  window.log.reverse.findSome? fun call =>
    match call.request, call.arguments with
    | "setWindowTitle", [.text title] => some title
    | _, _ => none

end Workbench.Application
