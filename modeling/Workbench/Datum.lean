import Workbench.Number.Shortest
import Workbench.Text.Quoted

/-! Plain data: what may be given where the library only keeps it, asks whether it is empty, or shows
it. -/

set_option autoImplicit false

namespace Workbench

inductive Datum where
  | nothing
  | flag (value : Bool)
  | int (value : Int)
  | float (value : Float)
  | text (value : String)
  | list (items : List Datum)
  | record (fields : List (String × Datum))
  deriving Inhabited

namespace Datum

/-- Whether a datum counts as false: nothing, a zero, or something empty. -/
def isEmpty : Datum → Bool
  | nothing => true
  | flag value => !value
  | int value => value == 0
  | float value => value == 0.0
  | text value => value.isEmpty
  | list items => items.isEmpty
  | record fields => fields.isEmpty

mutual

def quoted : Datum → String
  | nothing => "None"
  | flag value => if value then "True" else "False"
  | int value => toString value
  | float value => Number.renderFloat value
  | text value => Text.quoted value
  | list items => Text.listed (quotedAll items)
  | record fields => "\x7b" ++ ", ".intercalate (quotedFields fields) ++ "\x7d"

def quotedAll : List Datum → List String
  | [] => []
  | item :: rest => item.quoted :: quotedAll rest

def quotedFields : List (String × Datum) → List String
  | [] => []
  | (name, value) :: rest => (Text.quoted name ++ ": " ++ value.quoted) :: quotedFields rest

end

def shown : Datum → String
  | text value => value
  | datum => datum.quoted

end Datum

end Workbench
