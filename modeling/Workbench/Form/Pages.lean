import Workbench.Form.Tables

/-! The pages of the main window: the welcome, the editor with its token table and messages, and a
show of parts. -/

set_option autoImplicit false

namespace Workbench.Form

open Node

def welcomePage (picture : String) (properties : List Property) : Node :=
  part "QWidget" "home" .page (properties ++ [.styleSheet ("\n".intercalate [
    "background-image: url(:/images/images/images/" ++ picture ++ ");",
    "background-position: center;", "background-repeat: no-repeat;"])])

def buttonBounds : List Property := [minimum 150 30, maximum 100 unbounded]

def fileButtons : Node :=
  panel "layout_01" [maximum unbounded 70] [
    part "QGridLayout" "gridLayout_3" .inside [.number "setHorizontalSpacing" 0, .margins (-1) 0 0 0] [
      plain "layout_label_buttons" [minimum 0 70, maximum unbounded 70, leftToRight] [
        column "verticalLayout_22" [.margins 0 0 0 9] [
          label "label_4" [text "Archivo"],
          plain "layout_two_buttons" [maximum unbounded 40, leftToRight] [
            row "horizontalLayout_6" [.spacing 6, .margins (-1) 0 (-1) 0] [
              actionButton "btn_openFile" "cil-folder-open" "Abrir" buttonBounds,
              actionButton "btn_saveFile" "cil-save" "Guardar" buttonBounds]]
            (.aligned "AlignLeft")]]
        (.grid 0 0 1 1)]]

def workArea : Node :=
  panel "layout_02" [minimum 0 150] [
    row "horizontalLayout_7" [] [
      part "QVBoxLayout" "layout_editor" .sublayout [.margins 9 (-1) 9 (-1)] [
        label "label_editor" [text "Editor"],
        scrollingEdit "scrollArea_4" "scrollAreaWidgetContents_4" "horizontalLayout_16"
          "plainTextEdit_editor" 476 309 .next,
        actionButton "btn_generate_code" "cil-input" " Generar Tabla" buttonBounds],
      panel "layout_table" [minimum 200 0, maximum 800 unbounded] [
        column "verticalLayout_23" [.margins 9 (-1) 0 (-1)] [
          label "label_3" [text "Analizador Lexico"],
          showingTable "lexical_analizer_table"
            [.columns ["0", "1"], .rows 100 (rowTitles 1), .cells ["Test", "Text"]]
            [minimum 600 0, maximum 600 unbounded]
            [verticalBar "ScrollBarAlwaysOn", horizontalBar "ScrollBarAlwaysOff"]
            [.number "setRowCount" 100, .number "setColumnCount" 2] true true]]]]

def messageArea : Node :=
  panel "layout_03" [minimum 0 115, maximum unbounded 115] [
    column "verticalLayout_8" [] [
      label "label" [text "Salida"],
      next "QPlainTextEdit" "message_output"
        [minimum 200 0, maximum unbounded unbounded,
          .styleSheet "background-color: rgb(33, 37, 43);\nmargin-left: 15px;",
          .flag "setReadOnly" true]]]

def compilerPage : Node :=
  part "QWidget" "compiler" .page [] [
    column "verticalLayout_15" [] [fileButtons, workArea, messageArea]]

def fileBox : Node :=
  panel "row_1" [] [
    column "verticalLayout_16" packed [
      plain "frame_div_content_1" [minimum 0 110, maximum unbounded 110] [
        column "verticalLayout_17" packed [
          panel "frame_title_wid_1" [maximum unbounded 35] [
            column "verticalLayout_18" [] [
              label "labelBoxBlenderInstalation" [.font regular, .styleSheet "", text "FILE BOX"]]],
          plain "frame_content_wid_1" [] [
            row "horizontalLayout_9" [] [
              part "QGridLayout" "gridLayout" .sublayout [.margins (-1) (-1) (-1) 0] [
                part "QLineEdit" "lineEdit" (.cell (.grid 0 0 1 1))
                  [minimum 0 30, darkEdit, text "", .caption "setPlaceholderText" "Type here"],
                actionButton "pushButton" "cil-folder-open" "Open" [minimum 150 30] (.grid 0 1 1 1),
                part "QLabel" "labelVersion_3" (.cell (.grid 1 0 1 2))
                  [.styleSheet "color: rgb(113, 126, 149);", .number "setLineWidth" 1,
                    align ["AlignLeading", "AlignLeft", "AlignVCenter"],
                    text "Label description"]]]]]]]]

def barLook : Property := .styleSheet ("\n".intercalate [
  " QScrollBar:vertical \x7b background: rgb(52, 59, 72); \x7d",
  " QScrollBar:horizontal \x7b background: rgb(52, 59, 72); \x7d"])

def controls (areaWidth : Int) : Node :=
  panel "row_2" [minimum 0 150] [
    column "verticalLayout_19" [] [
      part "QGridLayout" "gridLayout_2" .sublayout [] [
        part "QCheckBox" "checkBox" (.cell (.grid 0 0 1 1))
          [.flag "setAutoFillBackground" false, .styleSheet "", text "CheckBox"],
        part "QRadioButton" "radioButton" (.cell (.grid 0 1 1 1))
          [.styleSheet "", text "RadioButton"],
        part "QSlider" "verticalSlider" (.cell (.grid 0 2 3 1))
          [.styleSheet "", orientation "Vertical"],
        part "QScrollBar" "verticalScrollBar" (.cell (.grid 0 4 3 1)) [barLook, orientation "Vertical"],
        scrollingEdit "scrollArea" "scrollAreaWidgetContents" "horizontalLayout_11" "plainTextEdit"
          areaWidth 218 (.grid 0 5 3 1),
        part "QComboBox" "comboBox" (.cell (.grid 1 0 1 2))
          [.choices ["Test 1", "Test 2", "Test 3"], .font regular, .flag "setAutoFillBackground" false,
            darkEdit, iconSize 16 16, .flag "setFrame" true],
        part "QScrollBar" "horizontalScrollBar" (.cell (.grid 1 3 1 1))
          [.policy wide, barLook, orientation "Horizontal"],
        part "QCommandLinkButton" "commandLinkButton" (.cell (.grid 1 6 1 1))
          [hand, .styleSheet "", .icon (image "cil-link"), text "Link Button",
            .caption "setDescription" "Link description"],
        part "QSlider" "horizontalSlider" (.cell (.grid 2 0 1 2))
          [.styleSheet "", orientation "Horizontal"]]]]

def sampleTable : Node :=
  panel "row_3" [minimum 0 150] [
    row "horizontalLayout_12" packed [
      showingTable "tableWidget"
        [.columns ["0", "1", "2", "3"], .rows 16 (rowTitles 16), .cells ["Test", "Text", "Cell", "Line"]]
        [] [verticalBar "ScrollBarAlwaysOn"] [] false false]]

def galleryPage (areaWidth : Int) : Node :=
  part "QWidget" "widgets" .page [.styleSheet "b"] [
    column "verticalLayout" [.spacing 10, .margins 10 10 10 10] [fileBox, controls areaWidth, sampleTable]]

end Workbench.Form
