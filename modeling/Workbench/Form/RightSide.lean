import Workbench.Form.Parts

/-! The right side of a window: the bar with its title, the box that opens at its edge, and the line
at its foot. -/

set_option autoImplicit false

namespace Workbench.Form

open Node

def titleBar (title : String) : Node :=
  plain "contentTopBg" [minimum 0 50, maximum unbounded 50] [
    row "horizontalLayout" [.spacing 0, .margins 0 0 10 0] [
      plain "leftBox" [.policy ⟨"Expanding", "Preferred"⟩] [
        row "horizontalLayout_3" packed [
          label "titleRightInfo"
            [.policy ⟨"Preferred", "Expanding"⟩, maximum unbounded 45, .font regular,
              align ["AlignLeading", "AlignLeft", "AlignVCenter"], text title]]],
      plain "rightButtons" [minimum 0 28] [
        row "horizontalLayout_2" [.spacing 5, .margins 0 0 0 0] [
          squareButton "settingsTopBtn" "icon_settings" "Settings",
          squareButton "minimizeAppBtn" "icon_minimize" "Minimize",
          squareButton "maximizeRestoreAppBtn" "icon_maximize" "Maximize" .next
            [.font { regular with strategy := some "PreferDefault" }],
          squareButton "closeAppBtn" "icon_close" "Close"]]
        (.aligned "AlignRight")]]

def rightBox : Node :=
  plain "extraRightBox" [minimum 0 0, maximum 0 unbounded] [
    column "verticalLayout_7" packed [
      plain "themeSettingsTopDetail" [maximum unbounded 3] [],
      plain "contentSettings" [] [
        column "verticalLayout_13" packed [
          plain "topMenus" [] [
            column "verticalLayout_14" packed [
              menuButton "btn_message" (behind "cil-envelope-open") "Message",
              menuButton "btn_print" (behind "cil-print") "Print",
              menuButton "btn_logout" (behind "cil-account-logout") "Logout"]]
            (.aligned "AlignTop")]]]]

def bottomBar (credits : String) : Node :=
  plain "bottomBar" [minimum 0 22, maximum unbounded 22] [
    row "horizontalLayout_5" packed [
      label "creditsLabel"
        [maximum unbounded 16, .font { family := "Segoe UI" },
          align ["AlignLeading", "AlignLeft", "AlignVCenter"], text credits],
      label "version" [align ["AlignRight", "AlignTrailing", "AlignVCenter"], text "v1.0.3"],
      plain "frame_size_grip" [minimum 20 0, maximum 20 unbounded] []]]

def contentBottom (layout : Node → Node) (firstPage : Int) (pages : List Node) (credits : String) :
    Node :=
  plain "contentBottom" [] [
    column "verticalLayout_6" packed [
      plain "content" [] [
        row "horizontalLayout_4" packed [
          plain "pagesContainer" [.styleSheet ""] [
            layout (next "QStackedWidget" "stackedWidget"
              [.styleSheet "background: transparent;", .firstPage firstPage] pages)],
          rightBox]],
      bottomBar credits]]

def contentBox (parts : List Node) : Node :=
  plain "contentBox" [] [column "verticalLayout_2" packed parts]

def backdrop (parts : List Node) : Node :=
  plain "bgApp" [.styleSheet ""] [row "appLayout" packed parts]

end Workbench.Form
