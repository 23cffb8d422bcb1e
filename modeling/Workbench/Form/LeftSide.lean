import Workbench.Form.About
import Workbench.Form.Parts

/-! The left side of a window: the menu, and the box that opens beside it. -/

set_option autoImplicit false

namespace Workbench.Form

open Node

def banner (title description : String) : Node :=
  plain "topLogoInfo" [minimum 0 50, maximum unbounded 50] [
    part "QFrame" "topLogo" .inside
      [.geometry 10 5 42 42, minimum 42 42, maximum 42 42, shape "NoFrame", raised],
    part "QLabel" "titleLeftApp" .inside
      [.geometry 70 8 160 20,
        .font { family := "Segoe UI Semibold", listed := false, pointSize := some 12 },
        align ["AlignLeading", "AlignLeft", "AlignTop"], text title],
    part "QLabel" "titleLeftDescription" .inside
      [.geometry 70 27 160 16, maximum unbounded 16,
        .font { family := "Segoe UI", pointSize := some 8 },
        align ["AlignLeading", "AlignLeft", "AlignTop"], text description]]

def leftMenu (banner : Node) (unfold layout : String) (buttons : List Node) : Node :=
  plain "leftMenuBg" [minimum 60 0, maximum 60 unbounded] [
    column "verticalLayout_3" packed [
      banner,
      plain "leftMenuFrame" [] [
        column "verticalMenuLayout" packed [
          plain "toggleBox" [maximum unbounded 45] [
            column "verticalLayout_4" packed [menuButton "toggleButton" (behind "icon_menu") unfold]],
          plain "topMenu" [] [column layout packed buttons] (.aligned "AlignTop"),
          plain "bottomMenu" [] [
            column "verticalLayout_9" packed [
              menuButton "toggleLeftBox" (behind "icon_settings") "Left Box"]]
            (.aligned "AlignBottom")]]]]

def leftBoxHead : Node :=
  plain "extraTopBg" [minimum 0 50, maximum unbounded 50] [
    column "verticalLayout_5" packed [
      part "QGridLayout" "extraTopLayout" .sublayout
        [.number "setHorizontalSpacing" 10, .number "setVerticalSpacing" 0, .margins 10 (-1) 10 (-1)] [
        plain "extraIcon" [minimum 20 0, maximum 20 20] [] (.grid 0 0 1 1),
        part "QLabel" "extraLabel" (.cell (.grid 0 1 1 1)) [minimum 150 0, text "Left Box"],
        squareButton "extraCloseColumnBtn" "icon_close" "Close left box" (.grid 0 2 1 1)]]]

def leftBox (head : List Node) (about : String) : Node :=
  plain "extraLeftBox" [minimum 0 0, maximum 0 unbounded] [
    column "extraColumLayout" packed (head ++ [
      plain "extraContent" [] [
        column "verticalLayout_12" packed [
          plain "extraTopMenu" [] [
            column "verticalLayout_11" packed [
              menuButton "btn_share" (behind "cil-share-boxed") "Share",
              menuButton "btn_adjustments" (behind "cil-equalizer") "Adjustments",
              menuButton "btn_more" (behind "cil-layers") "More"]]
            (.aligned "AlignTop"),
          plain "extraCenter" [] [
            column "verticalLayout_10" [] [
              next "QTextEdit" "textEdit"
                [minimum 222 0, .styleSheet "background: transparent;", shape "NoFrame",
                  .flag "setReadOnly" true, .caption "setHtml" about]]],
          plain "extraBottom" [] []]]])]

end Workbench.Form
