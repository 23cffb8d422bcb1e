/-! The style sheet of the whole window: dark, with one block of rules for each kind of part. -/

set_option autoImplicit false

namespace Workbench.Form.Theme

def rule : String := String.ofList (List.replicate 97 '/')

def heading : List String := [
  "/* " ++ rule,
  "",
  "SET APP STYLESHEET - FULL STYLES HERE",
  "DARK THEME - DRACULA COLOR BASED",
  "",
  rule ++ " */",
  "",
  "QWidget\x7b",
  "\tcolor: rgb(221, 221, 221);",
  "\tfont: 10pt \"Segoe UI\";",
  "\x7d",
  ""]

def toolTips : List String := [
  "QToolTip \x7b",
  "\tcolor: #ffffff;",
  "\tbackground-color: rgba(33, 37, 43, 180);",
  "\tborder: 1px solid rgb(44, 49, 58);",
  "\tbackground-image: none;",
  "\tbackground-position: left center;",
  "    background-repeat: no-repeat;",
  "\tborder: none;",
  "\tborder-left: 2px solid rgb(255, 121, 198);",
  "\ttext-align: left;",
  "\tpadding-left: 8px;",
  "\tmargin: 0px;",
  "\x7d",
  ""]

def background : List String := [
  "#bgApp \x7b\t",
  "\tbackground-color: rgb(40, 44, 52);",
  "\tborder: 1px solid rgb(44, 49, 58);",
  "\x7d",
  ""]

def leftMenu (logo : String) : List String := [
  "#leftMenuBg \x7b\t",
  "\tbackground-color: rgb(33, 37, 43);",
  "\x7d",
  "#topLogo \x7b",
  "\tbackground-color: rgb(33, 37, 43);",
  "\tbackground-image: url(:/images/images/images/" ++ logo ++ ");",
  "\tbackground-position: centered;",
  "\tbackground-repeat: no-repeat;",
  "\x7d",
  "#titleLeftApp \x7b font: 63 12pt \"Segoe UI Semibold\"; \x7d",
  "#titleLeftDescription \x7b font: 8pt \"Segoe UI\"; color: rgb(189, 147, 249); \x7d",
  "",
  "/* MENUS */",
  "#topMenu .QPushButton \x7b\t",
  "\tbackground-position: left center;",
  "    background-repeat: no-repeat;",
  "\tborder: none;",
  "\tborder-left: 22px solid transparent;",
  "\tbackground-color: transparent;",
  "\ttext-align: left;",
  "\tpadding-left: 44px;",
  "\x7d",
  "#topMenu .QPushButton:hover \x7b",
  "\tbackground-color: rgb(40, 44, 52);",
  "\x7d",
  "#topMenu .QPushButton:pressed \x7b\t",
  "\tbackground-color: rgb(189, 147, 249);",
  "\tcolor: rgb(255, 255, 255);",
  "\x7d",
  "#bottomMenu .QPushButton \x7b\t",
  "\tbackground-position: left center;",
  "    background-repeat: no-repeat;",
  "\tborder: none;",
  "\tborder-left: 20px solid transparent;",
  "\tbackground-color:transparent;",
  "\ttext-align: left;",
  "\tpadding-left: 44px;",
  "\x7d",
  "#bottomMenu .QPushButton:hover \x7b",
  "\tbackground-color: rgb(40, 44, 52);",
  "\x7d",
  "#bottomMenu .QPushButton:pressed \x7b\t",
  "\tbackground-color: rgb(189, 147, 249);",
  "\tcolor: rgb(255, 255, 255);",
  "\x7d",
  "#leftMenuFrame\x7b",
  "\tborder-top: 3px solid rgb(44, 49, 58);",
  "\x7d",
  "",
  "/* Toggle Button */",
  "#toggleButton \x7b",
  "\tbackground-position: left center;",
  "    background-repeat: no-repeat;",
  "\tborder: none;",
  "\tborder-left: 20px solid transparent;",
  "\tbackground-color: rgb(37, 41, 48);",
  "\ttext-align: left;",
  "\tpadding-left: 44px;",
  "\tcolor: rgb(113, 126, 149);",
  "\x7d",
  "#toggleButton:hover \x7b",
  "\tbackground-color: rgb(40, 44, 52);",
  "\x7d",
  "#toggleButton:pressed \x7b",
  "\tbackground-color: rgb(189, 147, 249);",
  "\x7d",
  "",
  "/* Title Menu */",
  "#titleRightInfo \x7b padding-left: 10px; \x7d",
  "",
  ""]

def extraTab : List String := [
  "#extraLeftBox \x7b\t",
  "\tbackground-color: rgb(44, 49, 58);",
  "\x7d",
  "#extraTopBg\x7b\t",
  "\tbackground-color: rgb(189, 147, 249)",
  "\x7d",
  "",
  "/* Icon */",
  "#extraIcon \x7b",
  "\tbackground-position: center;",
  "\tbackground-repeat: no-repeat;",
  "\tbackground-image: url(:/icons/images/icons/icon_settings.png);",
  "\x7d",
  "",
  "/* Label */",
  "#extraLabel \x7b color: rgb(255, 255, 255); \x7d",
  "",
  "/* Btn Close */",
  "#extraCloseColumnBtn \x7b background-color: rgba(255, 255, 255, 0); border: none;  border-radius: 5px; \x7d",
  "#extraCloseColumnBtn:hover \x7b background-color: rgb(196, 161, 249); border-style: solid; border-radius: 4px; \x7d",
  "#extraCloseColumnBtn:pressed \x7b background-color: rgb(180, 141, 238); border-style: solid; border-radius: 4px; \x7d",
  "",
  "/* Extra Content */",
  "#extraContent\x7b",
  "\tborder-top: 3px solid rgb(40, 44, 52);",
  "\x7d",
  "",
  "/* Extra Top Menus */",
  "#extraTopMenu .QPushButton \x7b",
  "background-position: left center;",
  "    background-repeat: no-repeat;",
  "\tborder: none;",
  "\tborder-left: 22px solid transparent;",
  "\tbackground-color:transparent;",
  "\ttext-align: left;",
  "\tpadding-left: 44px;",
  "\x7d",
  "#extraTopMenu .QPushButton:hover \x7b",
  "\tbackground-color: rgb(40, 44, 52);",
  "\x7d",
  "#extraTopMenu .QPushButton:pressed \x7b\t",
  "\tbackground-color: rgb(189, 147, 249);",
  "\tcolor: rgb(255, 255, 255);",
  "\x7d",
  ""]

def contents : List String := [
  "#contentTopBg\x7b\t",
  "\tbackground-color: rgb(33, 37, 43);",
  "\x7d",
  "#contentBottom\x7b",
  "\tborder-top: 3px solid rgb(44, 49, 58);",
  "\x7d",
  "",
  "/* Top Buttons */",
  "#rightButtons .QPushButton \x7b background-color: rgba(255, 255, 255, 0); border: none;  border-radius: 5px; \x7d",
  "#rightButtons .QPushButton:hover \x7b background-color: rgb(44, 49, 57); border-style: solid; border-radius: 4px; \x7d",
  "#rightButtons .QPushButton:pressed \x7b background-color: rgb(23, 26, 30); border-style: solid; border-radius: 4px; \x7d",
  "",
  "/* Theme Settings */",
  "#extraRightBox \x7b background-color: rgb(44, 49, 58); \x7d",
  "#themeSettingsTopDetail \x7b background-color: rgb(189, 147, 249); \x7d",
  "",
  "/* Bottom Bar */",
  "#bottomBar \x7b background-color: rgb(44, 49, 58); \x7d",
  "#bottomBar QLabel \x7b font-size: 11px; color: rgb(113, 126, 149); padding-left: 10px; padding-right: 10px; padding-bottom: 2px; \x7d",
  "",
  "/* CONTENT SETTINGS */",
  "/* MENUS */",
  "#contentSettings .QPushButton \x7b\t",
  "\tbackground-position: left center;",
  "    background-repeat: no-repeat;",
  "\tborder: none;",
  "\tborder-left: 22px solid transparent;",
  "\tbackground-color:transparent;",
  "\ttext-align: left;",
  "\tpadding-left: 44px;",
  "\x7d",
  "#contentSettings .QPushButton:hover \x7b",
  "\tbackground-color: rgb(40, 44, 52);",
  "\x7d",
  "#contentSettings .QPushButton:pressed \x7b\t",
  "\tbackground-color: rgb(189, 147, 249);",
  "\tcolor: rgb(255, 255, 255);",
  "\x7d",
  ""]

def tables : List String := [
  "QTableWidget \x7b\t",
  "\tbackground-color: transparent;",
  "\tpadding: 10px;",
  "\tborder-radius: 5px;",
  "\tgridline-color: rgb(44, 49, 58);",
  "\tborder-bottom: 1px solid rgb(44, 49, 60);",
  "\x7d",
  "QTableWidget::item\x7b",
  "\tborder-color: rgb(44, 49, 60);",
  "\tpadding-left: 5px;",
  "\tpadding-right: 5px;",
  "\tgridline-color: rgb(44, 49, 60);",
  "\x7d",
  "QTableWidget::item:selected\x7b",
  "\tbackground-color: rgb(189, 147, 249);",
  "\x7d",
  "QHeaderView::section\x7b",
  "\tbackground-color: rgb(33, 37, 43);",
  "\tmax-width: 30px;",
  "\tborder: 1px solid rgb(44, 49, 58);",
  "\tborder-style: none;",
  "    border-bottom: 1px solid rgb(44, 49, 60);",
  "    border-right: 1px solid rgb(44, 49, 60);",
  "\x7d",
  "QTableWidget::horizontalHeader \x7b\t",
  "\tbackground-color: rgb(33, 37, 43);",
  "\x7d",
  "QHeaderView::section:horizontal",
  "\x7b",
  "    border: 1px solid rgb(33, 37, 43);",
  "\tbackground-color: rgb(33, 37, 43);",
  "\tpadding: 3px;",
  "\tborder-top-left-radius: 7px;",
  "    border-top-right-radius: 7px;",
  "\x7d",
  "QHeaderView::section:vertical",
  "\x7b",
  "    border: 1px solid rgb(44, 49, 60);",
  "\x7d",
  ""]

def lineEdits : List String := [
  "QLineEdit \x7b",
  "\tbackground-color: rgb(33, 37, 43);",
  "\tborder-radius: 5px;",
  "\tborder: 2px solid rgb(33, 37, 43);",
  "\tpadding-left: 10px;",
  "\tselection-color: rgb(255, 255, 255);",
  "\tselection-background-color: rgb(255, 121, 198);",
  "\x7d",
  "QLineEdit:hover \x7b",
  "\tborder: 2px solid rgb(64, 71, 88);",
  "\x7d",
  "QLineEdit:focus \x7b",
  "\tborder: 2px solid rgb(91, 101, 124);",
  "\x7d",
  ""]

def textEdits : List String := [
  "QPlainTextEdit \x7b",
  "\tbackground-color: rgb(27, 29, 35);",
  "\tborder-radius: 5px;",
  "\tpadding: 10px;",
  "\tselection-color: rgb(255, 255, 255);",
  "\tselection-background-color: rgb(255, 121, 198);",
  "\x7d",
  "QPlainTextEdit  QScrollBar:vertical \x7b",
  "    width: 8px;",
  " \x7d",
  "QPlainTextEdit  QScrollBar:horizontal \x7b",
  "    height: 8px;",
  " \x7d",
  "QPlainTextEdit:hover \x7b",
  "\tborder: 2px solid rgb(64, 71, 88);",
  "\x7d",
  "QPlainTextEdit:focus \x7b",
  "\tborder: 2px solid rgb(91, 101, 124);",
  "\x7d",
  ""]

def scrollBars : List String := [
  "QScrollBar:horizontal \x7b",
  "    border: none;",
  "    background: rgb(52, 59, 72);",
  "    height: 8px;",
  "    margin: 0px 21px 0 21px;",
  "\tborder-radius: 0px;",
  "\x7d",
  "QScrollBar::handle:horizontal \x7b",
  "    background: rgb(189, 147, 249);",
  "    min-width: 25px;",
  "\tborder-radius: 4px",
  "\x7d",
  "QScrollBar::add-line:horizontal \x7b",
  "    border: none;",
  "    background: rgb(55, 63, 77);",
  "    width: 20px;",
  "\tborder-top-right-radius: 4px;",
  "    border-bottom-right-radius: 4px;",
  "    subcontrol-position: right;",
  "    subcontrol-origin: margin;",
  "\x7d",
  "QScrollBar::sub-line:horizontal \x7b",
  "    border: none;",
  "    background: rgb(55, 63, 77);",
  "    width: 20px;",
  "\tborder-top-left-radius: 4px;",
  "    border-bottom-left-radius: 4px;",
  "    subcontrol-position: left;",
  "    subcontrol-origin: margin;",
  "\x7d",
  "QScrollBar::up-arrow:horizontal, QScrollBar::down-arrow:horizontal",
  "\x7b",
  "     background: none;",
  "\x7d",
  "QScrollBar::add-page:horizontal, QScrollBar::sub-page:horizontal",
  "\x7b",
  "     background: none;",
  "\x7d",
  " QScrollBar:vertical \x7b",
  "\tborder: none;",
  "    background: rgb(52, 59, 72);",
  "    width: 8px;",
  "    margin: 21px 0 21px 0;",
  "\tborder-radius: 0px;",
  " \x7d",
  " QScrollBar::handle:vertical \x7b\t",
  "\tbackground: rgb(189, 147, 249);",
  "    min-height: 25px;",
  "\tborder-radius: 4px",
  " \x7d",
  " QScrollBar::add-line:vertical \x7b",
  "     border: none;",
  "    background: rgb(55, 63, 77);",
  "     height: 20px;",
  "\tborder-bottom-left-radius: 4px;",
  "    border-bottom-right-radius: 4px;",
  "     subcontrol-position: bottom;",
  "     subcontrol-origin: margin;",
  " \x7d",
  " QScrollBar::sub-line:vertical \x7b",
  "\tborder: none;",
  "    background: rgb(55, 63, 77);",
  "     height: 20px;",
  "\tborder-top-left-radius: 4px;",
  "    border-top-right-radius: 4px;",
  "     subcontrol-position: top;",
  "     subcontrol-origin: margin;",
  " \x7d",
  " QScrollBar::up-arrow:vertical, QScrollBar::down-arrow:vertical \x7b",
  "     background: none;",
  " \x7d",
  "",
  " QScrollBar::add-page:vertical, QScrollBar::sub-page:vertical \x7b",
  "     background: none;",
  " \x7d",
  ""]

def checkBoxes : List String := [
  "QCheckBox::indicator \x7b",
  "    border: 3px solid rgb(52, 59, 72);",
  "\twidth: 15px;",
  "\theight: 15px;",
  "\tborder-radius: 10px;",
  "    background: rgb(44, 49, 60);",
  "\x7d",
  "QCheckBox::indicator:hover \x7b",
  "    border: 3px solid rgb(58, 66, 81);",
  "\x7d",
  "QCheckBox::indicator:checked \x7b",
  "    background: 3px solid rgb(52, 59, 72);",
  "\tborder: 3px solid rgb(52, 59, 72);\t",
  "\tbackground-image: url(:/icons/images/icons/cil-check-alt.png);",
  "\x7d",
  ""]

def radioButtons : List String := [
  "QRadioButton::indicator \x7b",
  "    border: 3px solid rgb(52, 59, 72);",
  "\twidth: 15px;",
  "\theight: 15px;",
  "\tborder-radius: 10px;",
  "    background: rgb(44, 49, 60);",
  "\x7d",
  "QRadioButton::indicator:hover \x7b",
  "    border: 3px solid rgb(58, 66, 81);",
  "\x7d",
  "QRadioButton::indicator:checked \x7b",
  "    background: 3px solid rgb(94, 106, 130);",
  "\tborder: 3px solid rgb(52, 59, 72);\t",
  "\x7d",
  ""]

def comboBoxes : List String := [
  "QComboBox\x7b",
  "\tbackground-color: rgb(27, 29, 35);",
  "\tborder-radius: 5px;",
  "\tborder: 2px solid rgb(33, 37, 43);",
  "\tpadding: 5px;",
  "\tpadding-left: 10px;",
  "\x7d",
  "QComboBox:hover\x7b",
  "\tborder: 2px solid rgb(64, 71, 88);",
  "\x7d",
  "QComboBox::drop-down \x7b",
  "\tsubcontrol-origin: padding;",
  "\tsubcontrol-position: top right;",
  "\twidth: 25px; ",
  "\tborder-left-width: 3px;",
  "\tborder-left-color: rgba(39, 44, 54, 150);",
  "\tborder-left-style: solid;",
  "\tborder-top-right-radius: 3px;",
  "\tborder-bottom-right-radius: 3px;\t",
  "\tbackground-image: url(:/icons/images/icons/cil-arrow-bottom.png);",
  "\tbackground-position: center;",
  "\tbackground-repeat: no-reperat;",
  " \x7d",
  "QComboBox QAbstractItemView \x7b",
  "\tcolor: rgb(255, 121, 198);\t",
  "\tbackground-color: rgb(33, 37, 43);",
  "\tpadding: 10px;",
  "\tselection-background-color: rgb(39, 44, 54);",
  "\x7d",
  ""]

def sliders : List String := [
  "QSlider::groove:horizontal \x7b",
  "    border-radius: 5px;",
  "    height: 10px;",
  "\tmargin: 0px;",
  "\tbackground-color: rgb(52, 59, 72);",
  "\x7d",
  "QSlider::groove:horizontal:hover \x7b",
  "\tbackground-color: rgb(55, 62, 76);",
  "\x7d",
  "QSlider::handle:horizontal \x7b",
  "    background-color: rgb(189, 147, 249);",
  "    border: none;",
  "    height: 10px;",
  "    width: 10px;",
  "    margin: 0px;",
  "\tborder-radius: 5px;",
  "\x7d",
  "QSlider::handle:horizontal:hover \x7b",
  "    background-color: rgb(195, 155, 255);",
  "\x7d",
  "QSlider::handle:horizontal:pressed \x7b",
  "    background-color: rgb(255, 121, 198);",
  "\x7d",
  "",
  "QSlider::groove:vertical \x7b",
  "    border-radius: 5px;",
  "    width: 10px;",
  "    margin: 0px;",
  "\tbackground-color: rgb(52, 59, 72);",
  "\x7d",
  "QSlider::groove:vertical:hover \x7b",
  "\tbackground-color: rgb(55, 62, 76);",
  "\x7d",
  "QSlider::handle:vertical \x7b",
  "    background-color: rgb(189, 147, 249);",
  "\tborder: none;",
  "    height: 10px;",
  "    width: 10px;",
  "    margin: 0px;",
  "\tborder-radius: 5px;",
  "\x7d",
  "QSlider::handle:vertical:hover \x7b",
  "    background-color: rgb(195, 155, 255);",
  "\x7d",
  "QSlider::handle:vertical:pressed \x7b",
  "    background-color: rgb(255, 121, 198);",
  "\x7d",
  ""]

def linkButtons : List String := [
  "QCommandLinkButton \x7b\t",
  "\tcolor: rgb(255, 121, 198);",
  "\tborder-radius: 5px;",
  "\tpadding: 5px;",
  "\tcolor: rgb(255, 170, 255);",
  "\x7d",
  "QCommandLinkButton:hover \x7b\t",
  "\tcolor: rgb(255, 170, 255);",
  "\tbackground-color: rgb(44, 49, 60);",
  "\x7d",
  "QCommandLinkButton:pressed \x7b\t",
  "\tcolor: rgb(189, 147, 249);",
  "\tbackground-color: rgb(52, 58, 71);",
  "\x7d",
  ""]

def buttons : List String := [
  "#pagesContainer QPushButton \x7b",
  "\tborder: 2px solid rgb(52, 59, 72);",
  "\tborder-radius: 5px;\t",
  "\tbackground-color: rgb(52, 59, 72);",
  "\x7d",
  "#pagesContainer QPushButton:hover \x7b",
  "\tbackground-color: rgb(57, 65, 80);",
  "\tborder: 2px solid rgb(61, 70, 86);",
  "\x7d",
  "#pagesContainer QPushButton:pressed \x7b\t",
  "\tbackground-color: rgb(35, 40, 49);",
  "\tborder: 2px solid rgb(43, 50, 61);",
  "\x7d",
  "",
  ""]

def titled (title : String) (lines : List String) : List String :=
  ["/* " ++ rule, title ++ " */"] ++ lines

def lines (logo : String) : List String :=
  heading ++
  titled "Tooltip" toolTips ++
  titled "Bg App" background ++
  titled "Left Menu" (leftMenu logo) ++
  titled "Extra Tab" extraTab ++
  titled "Content App" contents ++
  titled "QTableWidget" tables ++
  titled "LineEdit" lineEdits ++
  titled "PlainTextEdit" textEdits ++
  titled "ScrollBars" scrollBars ++
  titled "CheckBox" checkBoxes ++
  titled "RadioButton" radioButtons ++
  titled "ComboBox" comboBoxes ++
  titled "Sliders" sliders ++
  titled "CommandLinkButton" linkButtons ++
  titled "Button" buttons

def sheet (logo : String) : String := "\n".intercalate (lines logo)

end Workbench.Form.Theme
