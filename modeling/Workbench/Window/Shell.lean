import Workbench.Window.State

/-! The shell of the window: its size on the screen, its title bar and its grips. -/

set_option autoImplicit false

namespace Workbench.Window

open Toolkit

def grip (edge : Edge) : Grip :=
  let name := match edge with
    | .left => "window.left_grip"
    | .right => "window.right_grip"
    | .top => "window.top_grip"
    | .bottom => "window.bottom_grip"
    | .none => "window.grip"
  { edge := edge, name := name, window := "window", inner := name ++ ".wi." }

def grips : List Grip := [grip .left, grip .right, grip .top, grip .bottom]

def dress (margin : Int) (tip picture visibility : String) : List Call :=
  [.on "appMargins" "setContentsMargins" [.int margin, .int margin, .int margin, .int margin],
    .on "maximizeRestoreAppBtn" "setToolTip" [.text tip],
    .on "maximizeRestoreAppBtn" "setIcon" [.unnamed "QIcon" [.text (Form.image picture)] []],
    .on "frame_size_grip" visibility] ++
  grips.map fun grip => .on grip.name visibility

def maximise (window : Window) : Window :=
  { window.requests (.on "window" "showMaximized" :: dress 0 "Restore" "icon_restore" "hide") with
    status := .flag true }

/-- A window that is restored grows by one pixel each way. -/
def restore (window : Window) : Window :=
  { window.requests ([.on "window" "showNormal",
      .on "window" "resize" [.int (window.width + 1), .int (window.height + 1)]] ++
      dress 10 "Maximize" "icon_maximize" "show") with
    status := .flag false
    width := window.width + 1
    height := window.height + 1 }

def maximiseOrRestore (window : Window) : Window :=
  if window.status.isNormal then window.maximise else window.restore

def ownTitleBar (window : Window) : List Call :=
  [.on "window" "setWindowFlags" [.constant "Qt.FramelessWindowHint"],
    .on "window" "setAttribute" [.constant "Qt.WA_TranslucentBackground"]] ++
  grips.flatMap fun grip => grip.build (some true) window.width window.height

def desktopTitleBar : List Call := [
  .on "appMargins" "setContentsMargins" [.int 0, .int 0, .int 0, .int 0],
  .on "minimizeAppBtn" "hide",
  .on "maximizeRestoreAppBtn" "hide",
  .on "closeAppBtn" "hide",
  .on "frame_size_grip" "hide"]

def shadow : List Call := [
  .on "window.shadow" "QGraphicsDropShadowEffect" [.object "window"],
  .on "window.shadow" "setBlurRadius" [.int 17],
  .on "window.shadow" "setXOffset" [.int 0],
  .on "window.shadow" "setYOffset" [.int 0],
  .on "window.shadow" "setColor" [.unnamed "QColor" [.int 0, .int 0, .int 0, .int 150] []],
  .on "bgApp" "setGraphicsEffect" [.object "window.shadow"]]

def sizeGrip : List Call := [
  .on "window.sizegrip" "QSizeGrip" [.object "frame_size_grip"],
  .on "window.sizegrip" "setStyleSheet" [.text "width: 20px; height: 20px; margin 0px; padding: 0px;"]]

/-- Defines the shell. Doing it again binds the buttons of the title bar once more. -/
def define (window : Window) : Window :=
  let bar := if window.settings.customTitleBar then window.ownTitleBar else desktopTitleBar
  (((window.requests (bar ++ shadow ++ sizeGrip)).whenClicked "minimizeAppBtn" .minimise).whenClicked
    "maximizeRestoreAppBtn" .maximiseOrRestore).whenClicked "closeAppBtn" .close

def placeGrips (window : Window) : Window :=
  if window.settings.customTitleBar then
    window.requests (grips.flatMap fun grip => grip.placing window.width window.height)
  else window

def press (point : Point) (window : Window) : Window := { window with dragStart := some point }

def drag? (point : Point) (window : Window) : Option Window := do
  let start ← window.dragStart
  let position : Point :=
    ⟨window.position.x + point.x - start.x, window.position.y + point.y - start.y⟩
  return { window.request
      (.on "window" "move" [.unnamed "QPoint" [.int position.x, .int position.y] []]) with
    position := position
    dragStart := some point }

/-- A maximised window is restored when the mouse moves over its title. -/
def leaveMaximised (window : Window) : Window :=
  if window.status.isMaximised then window.maximiseOrRestore else window

/-- A double click takes effect a quarter of a second later. -/
def doubleClickTitle (window : Window) : Window :=
  { window.request (.toolkit "QTimer.singleShot" [.int 250, .action "<lambda>"]) with
    waiting := window.waiting + 1 }

def passTime (window : Window) : Window :=
  { Nat.repeat maximiseOrRestore window.waiting window with waiting := 0 }

end Workbench.Window
