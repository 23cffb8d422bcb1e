import Workbench.Form.Node

/-! A form describes a window by its parts. Setting it up builds the parts, then gives them their
texts, then shows the first pages. -/

set_option autoImplicit false

namespace Workbench

open Toolkit

structure Form where
  /-- How the form is written out, but for the uses of policies, which its parts tell. -/
  style : Form.Edition
  window : Form.Node

namespace Form

def edition (form : Form) : Edition := { form.style with policies := form.window.policies }

/-- Everything but the window itself, in the order in which it is built. -/
def objects (form : Form) : List Node := form.window.inner

/-- The window is built already; it is told its name only if it has none. -/
def construction (form : Form) (ownName : String) : List Call :=
  let edition := form.edition
  let window := form.window
  (if ownName.isEmpty then [window.nameCall edition] else []) ++ window.calls edition ++
    Node.buildAll edition window.name window.name window.parts

def captions (form : Form) : List Call :=
  form.window.flatten.flatMap fun node =>
    node.properties.flatMap (Property.captions form.edition node.name)

def final (form : Form) : List Call :=
  form.window.flatten.flatMap fun node =>
    node.properties.flatMap (Property.final form.edition node.name)

def setup (form : Form) (ownName : String := "") : List Call :=
  form.construction ownName ++ form.captions ++ form.final ++
    [.toolkit "QMetaObject.connectSlotsByName" [form.edition.object form.window.name]]

def callsFrom (form : Form) (name : String) (ownName : String := "") : List Call :=
  (form.setup ownName).filter (·.origin? == some name)

def toolkitCalls (form : Form) (ownName : String := "") : List Call :=
  (form.setup ownName).filter (·.target.isNone)

def size (form : Form) : Int × Int :=
  (form.window.properties.findSome? Property.size?).getD (0, 0)

def styleSheetOf (form : Form) (name : String) : String :=
  ((form.window.find? name).map (·.styleSheet)).getD ""

def buttonsIn (form : Form) (name : String) : List String :=
  (((form.window.find? name).map (·.inner)).getD []).filterMap fun node =>
    if node.kind == "QPushButton" then some node.name else none

end Form

end Workbench
