import Workbench.Form

/-! The vocabulary that the forms are written in: kinds of parts, and the looks that come back. -/

set_option autoImplicit false

namespace Workbench.Form

def unbounded : Int := 16777215

def minimum (width height : Int) : Property := .extent "setMinimumSize" width height

def maximum (width height : Int) : Property := .extent "setMaximumSize" width height

def iconSize (width height : Int) : Property := .extent "setIconSize" width height

def shape (name : String) : Property := .options "setFrameShape" [⟨"QFrame", "Shape", name⟩]

def raised : Property := .options "setFrameShadow" [⟨"QFrame", "Shadow", "Raised"⟩]

def align (sides : List String) : Property :=
  .options "setAlignment" (sides.map fun side => ⟨"Qt", "AlignmentFlag", side⟩)

def leftToRight : Property := .options "setLayoutDirection" [⟨"Qt", "LayoutDirection", "LeftToRight"⟩]

def hand : Property := .cursor "PointingHandCursor"

def verticalBar (policy : String) : Property :=
  .options "setVerticalScrollBarPolicy" [⟨"Qt", "ScrollBarPolicy", policy⟩]

def horizontalBar (policy : String) : Property :=
  .options "setHorizontalScrollBarPolicy" [⟨"Qt", "ScrollBarPolicy", policy⟩]

def orientation (name : String) : Property := .options "setOrientation" [⟨"Qt", "Orientation", name⟩]

def text (content : String) : Property := .caption "setText" content

def toolTip (content : String) : Property := .caption "setToolTip" content

def regular : Font := { family := "Segoe UI", pointSize := some 10 }

def image (name : String) : String := ":/icons/images/icons/" ++ name ++ ".png"

def behind (name : String) : Property := .styleSheet ("background-image: url(" ++ image name ++ ");")

def wide : Policy := ⟨"Expanding", "Fixed"⟩

namespace Node

def part (kind name : String) (place : Place) (properties : List Property) (parts : List Node := []) :
    Node where
  name := name
  kind := kind
  place := place
  properties := properties
  parts := parts

def next (kind name : String) (properties : List Property) (parts : List Node := []) : Node :=
  part kind name (.cell .next) properties parts

def plain (name : String) (properties : List Property) (parts : List Node)
    (position : Position := .next) : Node :=
  part "QFrame" name (.cell position) (properties ++ [shape "NoFrame", raised]) parts

def panel (name : String) (properties : List Property) (parts : List Node) : Node :=
  next "QFrame" name (properties ++ [shape "StyledPanel", raised]) parts

def column (name : String) (properties : List Property) (parts : List Node) : Node :=
  part "QVBoxLayout" name .inside properties parts

def row (name : String) (properties : List Property) (parts : List Node) : Node :=
  part "QHBoxLayout" name .inside properties parts

def packed : List Property := [.spacing 0, .margins 0 0 0 0]

def label (name : String) (properties : List Property) : Node := next "QLabel" name properties

def menuButton (name : String) (look : Property) (content : String) : Node :=
  next "QPushButton" name
    [.policy wide, minimum 0 45, .font regular, hand, leftToRight, look, text content]

def squareButton (name picture tip : String) (position : Position := .next)
    (look : List Property := []) : Node :=
  part "QPushButton" name (.cell position) ([minimum 28 28, maximum 28 28] ++ look ++
    [hand, .icon (image picture), iconSize 20 20, toolTip tip, text ""])

def actionButton (name picture content : String) (bounds : List Property)
    (position : Position := .next) : Node :=
  part "QPushButton" name (.cell position) (bounds ++ [.font regular, hand,
    .styleSheet "background-color: rgb(52, 59, 72);", .icon (image picture), text content])

end Node

end Workbench.Form
