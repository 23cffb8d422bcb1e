import Workbench.Window.State

/-! Unfolding the menu, and opening and closing the boxes at the sides. -/

set_option autoImplicit false

namespace Workbench.Window

open Toolkit

def animation (name object : String) (time start finish : Int) : List Call := [
  .on name "QPropertyAnimation" [.object object, .text "minimumWidth"],
  .on name "setDuration" [.int time],
  .on name "setStartValue" [.int start],
  .on name "setEndValue" [.int finish],
  .on name "setEasingCurve" [.constant "QEasingCurve.InOutQuart"]]

def unfoldMenu (window : Window) : Window :=
  let width := window.widthOf "leftMenuBg"
  let wanted := if width = 60 then window.settings.menuWidth else 60
  window.requests
    (animation "window.animation" "leftMenuBg" window.settings.animationTime width wanted ++
      [.on "window.animation" "start"])

/-- Moves both boxes. Only the box on the named side opens, and only if it is closed. -/
def moveBoxes (left right : Int) (side : String) (window : Window) : Window :=
  let opened (width : Int) (name : String) : Int := if width = 0 ∧ side = name then 240 else 0
  let time := window.settings.animationTime
  window.requests
    (animation "window.left_box" "extraLeftBox" time left (opened left "left") ++
      animation "window.right_box" "extraRightBox" time right (opened right "right") ++ [
        .on "window.group" "QParallelAnimationGroup",
        .on "window.group" "addAnimation" [.object "window.left_box"],
        .on "window.group" "addAnimation" [.object "window.right_box"],
        .on "window.group" "start"])

/-- Colours the button of a box that opens, or takes the colour away when the box closes. If the box
opens while the other one is open, the button of the other loses its colour. -/
def colourButtons (button other : String) (colour otherColour : String) (width otherWidth : Int)
    (window : Window) : Window :=
  let style := window.styleOf button
  if width = 0 then
    let window := window.restyle button (style ++ colour)
    if otherWidth = 0 then window
    else window.restyle other (Settings.without otherColour (window.styleOf other))
  else window.restyle button (Settings.without colour style)

def toggleLeftBox (window : Window) : Window :=
  let left := window.widthOf "extraLeftBox"
  let right := window.widthOf "extraRightBox"
  (window.colourButtons "toggleLeftBox" "settingsTopBtn" window.settings.leftBoxColour
    window.settings.rightBoxColour left right).moveBoxes left right "left"

def toggleRightBox (window : Window) : Window :=
  let left := window.widthOf "extraLeftBox"
  let right := window.widthOf "extraRightBox"
  (window.colourButtons "settingsTopBtn" "toggleLeftBox" window.settings.rightBoxColour
    window.settings.leftBoxColour right left).moveBoxes left right "right"

end Workbench.Window
