import Workbench.Form.LeftSide
import Workbench.Form.Pages
import Workbench.Form.RightSide
import Workbench.Form.Theme

/-! The forms: the main window, the window of results, and two earlier main windows that are kept. -/

set_option autoImplicit false

namespace Workbench.Form

open Node

def credits : String :=
  "Hecho con amor por Rodrigo y Gustavo con ayuda de PyDracula de Wanderson-Magalhaes"

def mainWindow (width height : Int) (logo : String) (parts : List Node) : Node where
  name := "window"
  ownName := "MainWindow"
  kind := "QMainWindow"
  place := .inside
  properties := [.size width height, minimum 940 560, .caption "setWindowTitle" "MainWindow"]
  parts := [
    part "QWidget" "styleSheet" .central [.font regular, .styleSheet (Theme.sheet logo)] [
      column "appMargins" [.spacing 0, .margins 10 10 10 10] [backdrop parts]]]

def editor : Form where
  style := { context := "MainWindow" }
  window := mainWindow 1257 720 "logo-bloque-03.png" [
    leftMenu (banner "Compilador" "SSPTL2") "Ocultar" "verticalLayout_5" [
      menuButton "btn_home" (behind "cil-home") "Inicio",
      menuButton "btn_compiler" (behind "cil-code") "Editor",
      menuButton "btn_widgets" (behind "cil-gamepad") "Widgets"],
    leftBox [] about,
    contentBox [
      titleBar "Compilador - SSPTL2",
      contentBottom (fun stack => column "verticalLayout_24" [] [stack]) 1 [
        welcomePage "logo-bloque-02.png" [.flag "setAutoFillBackground" false],
        compilerPage, galleryPage 218] credits]]

def resultColumn (layout title heading edit : String) : Node :=
  part "QVBoxLayout" layout .sublayout [.margins 9 (-1) 9 (-1)] [
    label title [text heading],
    next "QPlainTextEdit" edit [minimum 200 200, darkEdit, .flag "setReadOnly" true]]

def results : Form where
  style := { context := "Form" }
  window := {
    name := "window"
    ownName := "Form"
    kind := "QWidget"
    place := .inside
    properties := [.size 973 556, .styleSheet (Theme.sheet "logo-bloque-03.png"),
      .caption "setWindowTitle" "Form"]
    parts := [
      row "horizontalLayout_8" packed [
        backdrop [
          leftBox [] about,
          contentBox [
            contentBottom (fun stack => column "verticalLayout_24" [] [stack]) 0 [
              part "QWidget" "compiler" .page [] [
                row "horizontalLayout_2" [] [
                  panel "layout_02" [minimum 0 150] [
                    row "horizontalLayout" [] [
                      resultColumn "layout_editor" "label_editor" "Codigo Ensamblador - MIPS"
                        "OutMIPS_plainTextEdit",
                      resultColumn "layout_editor_2" "label_editor_2" "Salida"
                        "OutResult_plainTextEdit"]]]]] credits]]]] }

/-- What the earlier main windows differ in. -/
structure Draft where
  logo : String
  title : String
  description : String
  about : String
  heading : String
  firstPage : Int
  welcome : Node
  areaWidth : Int
  credits : String

def Draft.window (draft : Draft) : Node :=
  mainWindow 1280 720 draft.logo [
    leftMenu (banner draft.title draft.description) "Hide" "verticalLayout_8" [
      menuButton "btn_home" (behind "cil-home") "Home",
      menuButton "btn_widgets" (behind "cil-gamepad") "Widgets",
      menuButton "btn_new" (behind "cil-file") "New",
      menuButton "btn_save" (.styleSheet ("background-image: url(" ++ image "cil-save" ++ ")")) "Save",
      menuButton "btn_exit" (behind "cil-x") "Exit"],
    leftBox [leftBoxHead] draft.about,
    contentBox [
      titleBar draft.heading,
      contentBottom
        (fun stack => column "verticalLayout_15" [.spacing 0, .margins 10 10 10 10] [stack])
        draft.firstPage [
          draft.welcome, galleryPage draft.areaWidth,
          part "QWidget" "new_page" .page [] [
            column "verticalLayout_20" [] [
              label "label" [align ["AlignCenter"], text "NEW PAGE TEST"]]]] draft.credits]]

def draft : Form where
  style := { context := "MainWindow" }
  window := Draft.window {
    logo := "logo-bloque-03.png"
    title := "Compilador"
    description := "SSPTL2"
    about := about
    heading := "Compilador - SSPTL2"
    firstPage := 0
    welcome := welcomePage "logo-bloque-02.png" [.flag "setAutoFillBackground" false]
    areaWidth := 353
    credits := credits }

def template : Form where
  style := { context := "MainWindow", grouped := false, familyLists := false }
  window := Draft.window {
    logo := "PyDracula.png"
    title := "PyDracula"
    description := "Modern GUI / Flat Style"
    about := about []
    heading := "PyDracula APP - Theme with colors based on Dracula for Python."
    firstPage := 2
    welcome := welcomePage "PyDracula_vertical.png" []
    areaWidth := 218
    credits := "By: Wanderson M. Pimenta" }

end Workbench.Form
