import Workbench.Toolkit

/-! What a form says of its parts: sizes, fonts, texts and the like, and the requests that bring them
about. -/

set_option autoImplicit false

namespace Workbench.Form

open Toolkit

structure Constant where
  owner : String
  group : String
  name : String
  deriving DecidableEq, Repr

/-- A font. Sizes and slants that are not given stay as they are. -/
structure Font where
  family : String
  /-- Whether the family may stand in a list. -/
  listed : Bool := true
  pointSize : Option Int := none
  upright : Bool := true
  strategy : Option String := none
  deriving DecidableEq, Repr

structure Policy where
  horizontal : String
  vertical : String
  deriving DecidableEq, Repr

inductive Property where
  | spacing (pixels : Int)
  | columns (titles : List String)
  | rows (count : Nat) (titles : List (String × Option Font))
  /-- The texts of the first row of a table. -/
  | cells (texts : List String)
  | choices (texts : List String)
  | size (width height : Int)
  | extent (request : String) (width height : Int)
  | geometry (left top width height : Int)
  | margins (left top right bottom : Int)
  | number (request : String) (value : Int)
  | flag (request : String) (value : Bool)
  | options (request : String) (values : List Constant)
  | header (side request : String) (value : Value)
  | font (font : Font)
  | policy (policy : Policy)
  | cursor (shape : String)
  | icon (file : String)
  | palette (colours : List (String × List Int × String))
  | styleSheet (text : String)
  | caption (request : String) (text : String)
  /-- The page of a stack that is shown first. -/
  | firstPage (index : Int)
  deriving Repr

structure Edition where
  /-- Constants are written with their group. -/
  grouped : Bool := true
  /-- Fonts take a list of families. -/
  familyLists : Bool := true
  /-- Names the form when its texts are looked up in another language. -/
  context : String
  /-- The name that an object of the form goes by outside of it. -/
  outside : String → String := id
  /-- Who uses which policy, in the order in which the objects are built. -/
  policies : List (Policy × String) := []

namespace Edition

def path (edition : Edition) (constant : Constant) : String :=
  if edition.grouped then constant.owner ++ "." ++ constant.group ++ "." ++ constant.name
  else constant.owner ++ "." ++ constant.name

def constant (edition : Edition) (constant : Constant) : Value := .constant (edition.path constant)

def object (edition : Edition) (name : String) : Value := .object (edition.outside name)

def call (edition : Edition) (name request : String) (arguments : List Value := []) : Call :=
  .on (edition.outside name) request arguments

/-- An empty text is the same in every language. -/
def localised (edition : Edition) (text : String) : Value :=
  if text.isEmpty then .text ""
  else .given "QCoreApplication.translate" [.text edition.context, .text text, .nothing]

def font (edition : Edition) (font : Font) : Value :=
  let family := if font.listed && edition.familyLists then ("setFamilies", [Value.list [.text font.family]])
    else ("setFamily", [.text font.family])
  let size := font.pointSize.map fun points => ("setPointSize", [Value.int points])
  let slant := if font.upright then [("setBold", [Value.flag false]), ("setItalic", [.flag false])] else []
  let strategy := font.strategy.map fun name => ("setStyleStrategy", [Value.constant ("QFont." ++ name)])
  .unnamed "QFont" [] ([family] ++ size.toList ++ slant ++ strategy.toList)

def usersUpTo (edition : Edition) (policy : Policy) (name : String) : List String :=
  let users := (edition.policies.filter (·.1 = policy)).map (·.2)
  users.takeWhile (· != name) ++ [name]

/-- A policy is one object for all its users: each use tells it once more whether its user's height
depends on its width. -/
def policy (edition : Edition) (policy : Policy) (name : String) : Value :=
  let side (choice : String) := edition.constant ⟨"QSizePolicy", "Policy", choice⟩
  let asked := (edition.usersUpTo policy name).map fun user =>
    ("setHeightForWidth", [Value.reply (.reply (edition.object user) "sizePolicy" []) "hasHeightForWidth" []])
  .unnamed "QSizePolicy" [side policy.horizontal, side policy.vertical]
    ([("setHorizontalStretch", [.int 0]), ("setVerticalStretch", [.int 0])] ++ asked)

def icon (edition : Edition) (file : String) : Value :=
  .unnamed "QIcon" [] [("addFile", [.text file, .unnamed "QSize" [] [],
    edition.constant ⟨"QIcon", "Mode", "Normal"⟩, edition.constant ⟨"QIcon", "State", "Off"⟩])]

end Edition

def paletteOf (colours : List (String × List Int × String)) : Value :=
  let brush (colour : List Int) (pattern : String) := Value.unnamed "QBrush"
    [.unnamed "QColor" (colour.map Value.int) []] [("setStyle", [.constant ("Qt." ++ pattern)])]
  .unnamed "QPalette" [] (["Active", "Inactive", "Disabled"].flatMap fun state =>
    colours.map fun (role, colour, pattern) =>
      ("setBrush", [.constant ("QPalette." ++ state), .constant ("QPalette." ++ role), brush colour pattern]))

def tableItem (edition : Edition) (font : Option Font) : Value :=
  .unnamed "QTableWidgetItem" [] (font.map fun font => ("setFont", [edition.font font])).toList

namespace Property

def early (edition : Edition) (name : String) : Property → List Call
  | .spacing pixels => [edition.call name "setSpacing" [.int pixels]]
  | .columns titles =>
    edition.call name "setColumnCount" [.int titles.length] ::
      titles.mapIdx fun index _ =>
        edition.call name "setHorizontalHeaderItem" [.int index, tableItem edition none]
  | .rows count titles =>
    edition.call name "setRowCount" [.int count] ::
      titles.mapIdx fun index (_, face) =>
        edition.call name "setVerticalHeaderItem" [.int index, tableItem edition face]
  | .cells texts =>
    texts.mapIdx fun index _ =>
      edition.call name "setItem" [.int 0, .int index, tableItem edition none]
  | .choices texts => texts.map fun _ => edition.call name "addItem" [.text ""]
  | _ => []

def calls (edition : Edition) (name : String) : Property → List Call
  | .size width height => [edition.call name "resize" [.int width, .int height]]
  | .extent request width height => [edition.call name request [Toolkit.extent width height]]
  | .geometry left top width height =>
    [edition.call name "setGeometry" [rectangle left top width height]]
  | .margins left top right bottom =>
    [edition.call name "setContentsMargins" [.int left, .int top, .int right, .int bottom]]
  | .number request value => [edition.call name request [.int value]]
  | .flag request value => [edition.call name request [.flag value]]
  | .options request values =>
    [edition.call name request [.constant ("|".intercalate (values.map edition.path))]]
  | .header side request value => [⟨some (.reply (edition.object name) side []), request, [value]⟩]
  | .font face => [edition.call name "setFont" [edition.font face]]
  | .policy shared => [edition.call name "setSizePolicy" [edition.policy shared name]]
  | .cursor shape =>
    [edition.call name "setCursor"
      [.unnamed "QCursor" [edition.constant ⟨"Qt", "CursorShape", shape⟩] []]]
  | .icon file => [edition.call name "setIcon" [edition.icon file]]
  | .palette colours => [edition.call name "setPalette" [paletteOf colours]]
  | .styleSheet text => [edition.call name "setStyleSheet" [.text text]]
  | _ => []

/-- What is asked each time the language of the form changes. A table does not sort while its texts
change. -/
def captions (edition : Edition) (name : String) : Property → List Call
  | .caption request text => [edition.call name request [edition.localised text]]
  | .columns titles => titles.mapIdx fun index title =>
    ⟨some (.reply (edition.object name) "horizontalHeaderItem" [.int index]), "setText",
      [edition.localised title]⟩
  | .rows _ titles => titles.mapIdx fun index (title, _) =>
    ⟨some (.reply (edition.object name) "verticalHeaderItem" [.int index]), "setText",
      [edition.localised title]⟩
  | .cells texts =>
    [edition.call name "setSortingEnabled" [.flag false]] ++
      texts.mapIdx (fun index text =>
        ⟨some (.reply (edition.object name) "item" [.int 0, .int index]), "setText",
          [edition.localised text]⟩) ++
      [edition.call name "setSortingEnabled" [.reply (edition.object name) "isSortingEnabled" []]]
  | .choices texts => texts.mapIdx fun index text =>
    edition.call name "setItemText" [.int index, edition.localised text]
  | _ => []

def final (edition : Edition) (name : String) : Property → List Call
  | .firstPage index => [edition.call name "setCurrentIndex" [.int index]]
  | _ => []

def policy? : Property → Option Policy
  | .policy shared => some shared
  | _ => none

def size? : Property → Option (Int × Int)
  | .size width height => some (width, height)
  | _ => none

def styleSheet? : Property → Option String
  | .styleSheet text => some text
  | _ => none

end Property

end Workbench.Form
