import Workbench.Syntax.State

/-! What comes back from reading a piece of a program. Reading never goes back, so each result carries
the fact that no more tokens are left than before. -/

set_option autoImplicit false

namespace Workbench.Syntax

/-- The type of what was read from `start` and the state after it. -/
structure Typed (start : State) where
  type : Option TypeName
  next : State
  bound : next.rest.length ≤ start.rest.length

def Typed.still (state : State) : Typed state := ⟨none, state, Nat.le_refl _⟩

structure Outcome (start : State) where
  result : Except Halt Unit
  next : State
  bound : next.rest.length ≤ start.rest.length

def Outcome.still (state : State) : Outcome state := ⟨.ok (), state, Nat.le_refl _⟩

/-- Like `Outcome`, where a token has been passed if there was one. -/
structure Progress (start : State) where
  result : Except Halt Unit
  next : State
  bound : next.rest.length ≤ start.rest.length - 1

end Workbench.Syntax
