import Workbench.Form.Property

/-! Forms as trees of named parts, and the requests that set a form up. -/

set_option autoImplicit false

namespace Workbench.Form

open Toolkit

inductive Position where
  | next
  | aligned (side : String)
  | grid (row column rows columns : Int)
  deriving DecidableEq, Repr

def Position.values (edition : Edition) : Position → List Value
  | .next => []
  | .aligned side => [.int 0, edition.constant ⟨"Qt", "AlignmentFlag", side⟩]
  | .grid row column rows columns => [.int row, .int column, .int rows, .int columns]

inductive Place where
  | inside
  | cell (position : Position)
  | sublayout
  | page
  | content
  | central
  deriving DecidableEq, Repr

structure Node where
  name : String
  kind : String
  place : Place
  properties : List Property
  parts : List Node
  /-- The name the object itself is told. -/
  ownName : String := name

namespace Node

def isLayout (node : Node) : Bool :=
  node.kind == "QVBoxLayout" || node.kind == "QHBoxLayout" || node.kind == "QGridLayout"

/-- What a part is built from: the widget around it, unless it is handed over once it is complete. -/
def builtFrom (edition : Edition) (widget : String) (node : Node) : List Value :=
  match node.place with
  | .inside | .cell _ | .central => [edition.object widget]
  | .sublayout | .page | .content => []

def handOver (edition : Edition) (holder : String) (node : Node) : List Call :=
  let part := edition.object node.name
  match node.place with
  | .inside => []
  | .cell position => [edition.call holder "addWidget" (part :: position.values edition)]
  | .sublayout => [edition.call holder "addLayout" [part]]
  | .page => [edition.call holder "addWidget" [part]]
  | .content => [edition.call holder "setWidget" [part]]
  | .central => [edition.call holder "setCentralWidget" [part]]

def nameCall (edition : Edition) (node : Node) : Call :=
  edition.call node.name "setObjectName" [.text node.ownName]

def earlyCalls (edition : Edition) (node : Node) : List Call :=
  node.properties.flatMap (Property.early edition node.name)

def calls (edition : Edition) (node : Node) : List Call :=
  node.properties.flatMap (Property.calls edition node.name)

mutual

/-- Builds a part with all that is in it. The widget is the one that new widgets are built in, the
holder is the part around this one: they differ in a layout. -/
def build (edition : Edition) (widget holder : String) : Node → List Call
  | ⟨name, kind, place, properties, parts, ownName⟩ =>
    let node : Node := ⟨name, kind, place, properties, [], ownName⟩
    [edition.call name kind (node.builtFrom edition widget)] ++ node.earlyCalls edition ++
      [node.nameCall edition] ++ node.calls edition ++
      buildAll edition (if node.isLayout then widget else name) name parts ++
      node.handOver edition holder

def buildAll (edition : Edition) (widget holder : String) : List Node → List Call
  | [] => []
  | node :: rest => build edition widget holder node ++ buildAll edition widget holder rest

end

mutual

def flatten : Node → List Node
  | ⟨name, kind, place, properties, parts, ownName⟩ =>
    ⟨name, kind, place, properties, parts, ownName⟩ :: flattenAll parts

def flattenAll : List Node → List Node
  | [] => []
  | node :: rest => flatten node ++ flattenAll rest

end

def inner (node : Node) : List Node := flattenAll node.parts

def find? (name : String) (node : Node) : Option Node := node.flatten.find? (·.name == name)

def styleSheet (node : Node) : String :=
  (node.properties.filterMap Property.styleSheet?).getLast?.getD ""

def policies (node : Node) : List (Policy × String) :=
  node.flatten.flatMap fun part =>
    (part.properties.filterMap Property.policy?).map fun policy => (policy, part.name)

end Node

end Workbench.Form
