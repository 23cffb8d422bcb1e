/-! The rich text that tells about the look of the window. -/

set_option autoImplicit false

namespace Workbench.Form

def centred (look content : String) : String :=
  "<p align=\"center\" style=\" margin-top:12px; margin-bottom:12px; margin-left:0px; " ++
    "margin-right:0px; -qt-block-indent:0; text-indent:0px;\"><span style=\" " ++ look ++ "\">" ++
    content ++ "</span></p>"

def heading (content : String) : String :=
  centred "font-size:12pt; font-weight:600; color:#ff79c6;" content

def command (content : String) : String := centred "font-size:9pt; color:#ffffff;" content

def listMarks : List String := [
  "hr \x7b height: 1px; border-width: 0; \x7d",
  "li.unchecked::marker \x7b content: \"\\2610\"; \x7d",
  "li.checked::marker \x7b content: \"\\2612\"; \x7d"]

def paragraphs : List String := [
  heading "PyDracula",
  centred "color:#ffffff;" ("An interface created using Python and PySide (support for PyQt), and with " ++
    "colors based on the Dracula theme created by Zeno Rocha."),
  centred "color:#ffffff;" "MIT License",
  centred "color:#bd93f9;" "Created by: Wanderson M. Pimenta",
  heading "Convert UI",
  command "pyside6-uic main.ui &gt; ui_main.py",
  heading "Convert QRC",
  command "pyside6-rcc resources.qrc -o resources_rc.py"]

def about (marks : List String := listMarks) : String :=
  "\n".intercalate ([
    "<!DOCTYPE HTML PUBLIC \"-//W3C//DTD HTML 4.0//EN\" " ++
      "\"http://www.w3.org/TR/REC-html40/strict.dtd\">",
    "<html><head><meta name=\"qrichtext\" content=\"1\" /><meta charset=\"utf-8\" />" ++
      "<style type=\"text/css\">",
    "p, li \x7b white-space: pre-wrap; \x7d"] ++ marks ++ [
    "</style></head><body style=\" font-family:'Segoe UI'; font-size:10pt; font-weight:400; " ++
      "font-style:normal;\">"] ++ paragraphs) ++ "</body></html>"

end Workbench.Form
