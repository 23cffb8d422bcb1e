import Workbench.Datum

/-! The status of a window: whether it is maximised. It is kept as it was given, and anything may be
given. -/

set_option autoImplicit false

namespace Workbench

abbrev Status := Datum

namespace Status

/-- Only false and zero mean that the window has its normal size. -/
def isNormal : Status → Bool
  | .flag value => !value
  | .int value => value == 0
  | .float value => value == 0.0
  | _ => false

/-- What is empty does not count as maximised when the window is moved. -/
def isMaximised (status : Status) : Bool := !status.isEmpty

end Status

end Workbench
