/-! Tables from names to values that keep the order in which names first came in. -/

set_option autoImplicit false

namespace Workbench

structure Table (α : Type) where
  entries : List (String × α) := []
  deriving DecidableEq, Repr

namespace Table

variable {α : Type}

def get? (table : Table α) (name : String) : Option α := table.entries.lookup name

def contains (table : Table α) (name : String) : Bool := (table.get? name).isSome

def names (table : Table α) : List String := table.entries.map (·.1)

def add (table : Table α) (name : String) (value : α) : Table α :=
  ⟨table.entries ++ [(name, value)]⟩

/-- A name that is there keeps its place. -/
def put (table : Table α) (name : String) (value : α) : Table α :=
  if table.contains name then
    ⟨table.entries.map fun entry => if entry.1 == name then (name, value) else entry⟩
  else table.add name value

end Table

end Workbench
