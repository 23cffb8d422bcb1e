import Workbench.Application
import Workbench.Toolkit.Render

/-! The command line: starts the program and writes, line by line, what it asks of the toolkit. -/

def main (arguments : List String) : IO UInt32 := do
  for call in Workbench.Application.run arguments do
    IO.println call.render
  return 0
