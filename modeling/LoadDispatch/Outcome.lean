import LoadDispatch.Fault

/-!
# Outcomes

An operation that waits for other parties may never end.  Here it gets a *patience*, a number of
passes it may make, and its `Outcome` tells apart the three ways it can go: it returned, it ended
early with a fault, or its patience ran out first.  A larger patience changes nothing but the
last.
-/

namespace LoadDispatch

/-- How an operation that may wait went. -/
inductive Outcome (α : Type) where
  /-- It returned. -/
  | returned (value : α)
  /-- It ended early. -/
  | raised (fault : Fault)
  /-- Its patience ran out. -/
  | unfinished
deriving DecidableEq, Repr

namespace Outcome

variable {α β : Type}

/-- The outcome of an operation that does not wait. -/
def ofExcept : Except Fault α → Outcome α
  | .ok value => .returned value
  | .error fault => .raised fault

/-- The same outcome with its value mapped. -/
def map (f : α → β) : Outcome α → Outcome β
  | .returned value => .returned (f value)
  | .raised fault => .raised fault
  | .unfinished => .unfinished

end Outcome

/-- How long an operation may wait. -/
structure Patience where
  /-- The number of passes in a single wait for a slot. -/
  passes : Nat
  /-- The depth of folders in a walk. -/
  depth : Nat

end LoadDispatch
