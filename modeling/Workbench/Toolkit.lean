/-! Requests to the window toolkit, as data: what is asked of which object, with which values. -/

set_option autoImplicit false

namespace Workbench.Toolkit

inductive Value where
  | nothing
  | flag (value : Bool)
  | int (value : Int)
  | text (value : String)
  | list (items : List Value)
  /-- An object that has a name. -/
  | object (name : String)
  | constant (path : String)
  /-- An object without a name: its class, what it was built from, and what was asked of it since. -/
  | unnamed (kind : String) (parts : List Value) (changes : List (String × List Value))
  /-- What a function of the toolkit gives. -/
  | given (function : String) (arguments : List Value)
  /-- What an object answers to a request. -/
  | reply (target : Value) (request : String) (arguments : List Value)
  | signal (owner : String) (name : String)
  | action (name : String)
  deriving Repr

def Value.origin? : Value → Option String
  | .object name | .signal name _ => some name
  | .reply target _ _ => target.origin?
  | _ => none

/-- A request is made on a value, or on the toolkit itself. -/
structure Call where
  target : Option Value
  request : String
  arguments : List Value := []
  deriving Repr

namespace Call

def on (name request : String) (arguments : List Value := []) : Call :=
  ⟨some (.object name), request, arguments⟩

def toolkit (function : String) (arguments : List Value) : Call := ⟨none, function, arguments⟩

def whenClicked (button action : String) : Call :=
  ⟨some (.signal button "clicked"), "connect", [.action action]⟩

def origin? (call : Call) : Option String := call.target.bind Value.origin?

end Call

def extent (width height : Int) : Value := .unnamed "QSize" [.int width, .int height] []

def rectangle (left top width height : Int) : Value :=
  .unnamed "QRect" [.int left, .int top, .int width, .int height] []

end Workbench.Toolkit
