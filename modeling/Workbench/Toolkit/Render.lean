import Workbench.Text.Quoted
import Workbench.Toolkit

/-! Requests as lines of text. -/

set_option autoImplicit false

namespace Workbench.Toolkit

def listing (items : List String) : String := ", ".intercalate items

mutual

def Value.render : Value → String
  | .nothing => "nothing"
  | .flag value => if value then "true" else "false"
  | .int value => toString value
  | .text value => Text.quoted value
  | .list items => "[" ++ listing (renderAll items) ++ "]"
  | .object name | .constant name | .action name => name
  | .unnamed kind parts changes =>
    kind ++ "(" ++ listing (renderAll parts) ++ ")" ++ String.join (renderChanges changes)
  | .given function arguments => function ++ "(" ++ listing (renderAll arguments) ++ ")"
  | .reply target request arguments =>
    target.render ++ "." ++ request ++ "(" ++ listing (renderAll arguments) ++ ")"
  | .signal owner name => owner ++ "." ++ name

def renderAll : List Value → List String
  | [] => []
  | value :: rest => value.render :: renderAll rest

def renderChanges : List (String × List Value) → List String
  | [] => []
  | (request, arguments) :: rest =>
    ("." ++ request ++ "(" ++ listing (renderAll arguments) ++ ")") :: renderChanges rest

end

def Call.render (call : Call) : String :=
  let start := (call.target.map fun target => target.render ++ ".").getD ""
  start ++ call.request ++ "(" ++ listing (renderAll call.arguments) ++ ")"

end Workbench.Toolkit
