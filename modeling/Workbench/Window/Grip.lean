import Workbench.Form.Parts

/-! Grips: strips along the edges of a window by which it is resized. -/

set_option autoImplicit false

namespace Workbench

open Toolkit

inductive Edge where
  | top
  | bottom
  | left
  | right
  | none
  deriving DecidableEq, Repr

namespace Edge

def name : Edge → String
  | .top => "TopEdge"
  | .bottom => "BottomEdge"
  | .left => "LeftEdge"
  | .right => "RightEdge"
  | .none => "NoEdge"

end Edge

structure Frame where
  x : Int
  y : Int
  width : Int
  height : Int
  minimumWidth : Int := 0
  minimumHeight : Int := 0
  deriving DecidableEq, Repr

namespace Frame

/-- Drags an edge by so much to the right and down. The opposite edge stays: a frame of height `h` ends
at `y + h - 1`, and its new top is put `h` above that, so a drag at the top or the left leaves one more
than it aimed for. -/
def drag (edge : Edge) (right down : Int) (frame : Frame) : Frame :=
  match edge with
  | .top =>
    let height := max frame.minimumHeight (frame.height - down)
    { frame with y := frame.y + frame.height - 1 - height, height := height + 1 }
  | .bottom => { frame with height := max frame.minimumHeight (frame.height + down) }
  | .left =>
    let width := max frame.minimumWidth (frame.width - right)
    { frame with x := frame.x + frame.width - 1 - width, width := width + 1 }
  | .right => { frame with width := max frame.minimumWidth (frame.width + right) }
  | .none => frame

end Frame

/-- A grip goes by a name of its own, and its parts by names that begin alike. -/
structure Grip where
  edge : Edge
  name : String
  window : String
  inner : String
  /-- How the names of the corner handles at the foot begin, if they have names. -/
  corners : Option String := none

namespace Grip

open Form Form.Node

def corner (name cursor : String) : Node :=
  plain name [minimum 10 10, maximum 10 10, .cursor cursor,
    .styleSheet "background-color: rgb(33, 37, 43);"] []

def strip (container layout : String) (parts : List Node) : Node :=
  part "QFrame" container .inside
    [.geometry 0 0 500 10, minimum 0 10, maximum unbounded 10, shape "NoFrame", raised]
    [row layout packed parts]

def bar (name colour : String) : Node :=
  plain name [.cursor "SizeVerCursor", .styleSheet ("background-color: " ++ colour ++ ";")] []

def side (name ownName : String) (top height : Int) (colour : String) : Node :=
  { part "QFrame" name .inside [.geometry 0 top 10 height, minimum 10 0, .cursor "SizeHorCursor",
      .styleSheet ("background-color: " ++ colour ++ ";"), shape "NoFrame", raised] with
    ownName := ownName }

def parts : Edge → List Node
  | .top => [strip "container_top" "top_layout" [
      corner "top_left" "SizeFDiagCursor", bar "top" "rgb(85, 255, 255)",
      corner "top_right" "SizeBDiagCursor"]]
  | .bottom => [strip "container_bottom" "bottom_layout" [
      corner "bottom_left" "SizeBDiagCursor", bar "bottom" "rgb(85, 170, 0)",
      corner "bottom_right" "SizeFDiagCursor"]]
  | .left => [side "leftgrip" "left" 10 480 "rgb(255, 121, 198)"]
  | .right => [side "rightgrip" "right" 0 500 "rgb(255, 0, 127)"]
  | .none => []

def form (grip : Grip) : Form where
  style := {
    context := ""
    grouped := false
    outside := fun name => if name.isEmpty then grip.name else grip.inner ++ name }
  window := {
    name := ""
    ownName := "Form"
    kind := "QWidget"
    place := .inside
    properties := if grip.edge = .right then [.size 500 500] else []
    parts := parts grip.edge }

def inside (grip : Grip) (part : String) : String := grip.inner ++ part

def placing (grip : Grip) (width height : Int) : List Call :=
  let put (left top width height : Int) :=
    Call.on grip.name "setGeometry" [.int left, .int top, .int width, .int height]
  match grip.edge with
  | .top => [put 0 0 width 10]
  | .bottom => [put 0 (height - 10) width 10]
  | .left => [put 0 10 10 height]
  | .right => [put (width - 10) 10 10 height]
  | .none => []

def thinness (grip : Grip) : List Call :=
  match grip.edge with
  | .top | .bottom => [.on grip.name "setMaximumHeight" [.int 10]]
  | .left | .right => [.on grip.name "setMaximumWidth" [.int 10]]
  | .none => []

def cornerHandles (grip : Grip) : List Call :=
  match grip.edge, grip.corners with
  | .bottom, some start => ["bottom_left", "bottom_right"].map fun corner =>
    .on (start ++ corner) "QSizeGrip" [.object (grip.inside corner)]
  | _, _ => []

def coloured : Edge → List String
  | .top => ["top_left", "top_right", "top"]
  | .bottom => ["bottom_left", "bottom_right", "bottom"]
  | .left => ["leftgrip"]
  | .right => ["rightgrip"]
  | .none => []

def fading (grip : Grip) : List Call :=
  (coloured grip.edge).map fun part =>
    .on (grip.inside part) "setStyleSheet" [.text "background: transparent"]

def build (grip : Grip) (hideColours : Option Bool) (width height : Int) : List Call :=
  let made := Call.on grip.name "CustomGrip"
    ([.object grip.window, .constant ("Qt." ++ grip.edge.name)] ++ (hideColours.map Value.flag).toList)
  let body := if grip.edge = .none then [] else grip.form.construction ""
  [made, .on grip.name "setParent" [.object grip.window]] ++ body ++ grip.placing width height ++
    grip.thinness ++ grip.cornerHandles ++ (if hideColours.getD false then grip.fading else [])

def follow (grip : Grip) (width height : Int) : List Call :=
  let fit (part : String) (width height : Int) :=
    Call.on (grip.inside part) "setGeometry" [.int 0, .int 0, .int width, .int height]
  match grip.edge with
  | .top => [fit "container_top" width 10]
  | .bottom => [fit "container_bottom" width 10]
  | .left => [fit "leftgrip" 10 (height - 20)]
  | .right => [fit "rightgrip" 10 (height - 20)]
  | .none => []

end Grip

end Workbench
