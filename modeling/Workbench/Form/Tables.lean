import Workbench.Form.Parts

/-! Tables that only show: no cell of them is edited, and whole rows are selected. -/

set_option autoImplicit false

namespace Workbench.Form

def light : List Int := [221, 221, 221, 255]

def clear : List Int := [0, 0, 0, 0]

def tableColours : List (String × List Int × String) := [
  ("WindowText", light, "SolidPattern"),
  ("Button", clear, "SolidPattern"),
  ("Text", light, "SolidPattern"),
  ("ButtonText", light, "SolidPattern"),
  ("Base", [0, 0, 0, 255], "NoBrush"),
  ("Window", clear, "SolidPattern"),
  ("PlaceholderText", light, "SolidPattern")]

/-- The first row title has a font of its own. -/
def rowTitles (count : Nat) : List (String × Option Font) :=
  ("New Row", some { family := "Segoe UI", upright := false }) :: List.replicate (count - 1) ("New Row", none)

def tableHeaders (showColumns : Bool) : List Property := [
  .header "horizontalHeader" "setVisible" (.flag showColumns),
  .header "horizontalHeader" "setCascadingSectionResizes" (.flag true),
  .header "horizontalHeader" "setDefaultSectionSize" (.int 200),
  .header "horizontalHeader" "setStretchLastSection" (.flag true),
  .header "verticalHeader" "setVisible" (.flag false),
  .header "verticalHeader" "setCascadingSectionResizes" (.flag false),
  .header "verticalHeader" "setHighlightSections" (.flag false),
  .header "verticalHeader" "setStretchLastSection" (.flag true)]

def showingTable (name : String) (contents bounds bars counts : List Property) (sorting : Bool)
    (showColumns : Bool) : Node :=
  .next "QTableWidget" name (contents ++ [.policy ⟨"Expanding", "Expanding"⟩] ++ bounds ++
    [.palette tableColours, shape "NoFrame"] ++ bars ++ [
      .options "setSizeAdjustPolicy" [⟨"QAbstractScrollArea", "SizeAdjustPolicy", "AdjustToContents"⟩],
      .options "setEditTriggers" [⟨"QAbstractItemView", "EditTrigger", "NoEditTriggers"⟩],
      .options "setSelectionMode" [⟨"QAbstractItemView", "SelectionMode", "SingleSelection"⟩],
      .options "setSelectionBehavior" [⟨"QAbstractItemView", "SelectionBehavior", "SelectRows"⟩],
      .flag "setShowGrid" true,
      .options "setGridStyle" [⟨"Qt", "PenStyle", "SolidLine"⟩],
      .flag "setSortingEnabled" sorting] ++ counts ++ tableHeaders showColumns)

def darkEdit : Property := .styleSheet "background-color: rgb(33, 37, 43);"

def scrollingEdit (area contents layout edit : String) (width height : Int) (position : Position) :
    Node :=
  .part "QScrollArea" area (.cell position) [
    .styleSheet ("\n".intercalate [" QScrollBar:vertical \x7b", "    background: rgb(52, 59, 72);", " \x7d",
      " QScrollBar:horizontal \x7b", "    background: rgb(52, 59, 72);", " \x7d"]),
    shape "NoFrame", verticalBar "ScrollBarAlwaysOn", horizontalBar "ScrollBarAsNeeded",
    .flag "setWidgetResizable" true] [
    .part "QWidget" contents .content [
      .geometry 0 0 width height,
      .styleSheet ("\n".intercalate [" QScrollBar:vertical \x7b", "\tborder: none;",
        "    background: rgb(52, 59, 72);", "    width: 14px;", "    margin: 21px 0 21px 0;",
        "\tborder-radius: 0px;", " \x7d"])] [
      .row layout [] [.next "QPlainTextEdit" edit [minimum 200 200, darkEdit]]]]

end Workbench.Form
