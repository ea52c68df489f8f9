import LoadDispatch.Attempt
import LoadDispatch.Outcome

/-!
# The pool of attempts in flight

A `Pool` has the attempts that were admitted and have not left, oldest first, and two counters.
Its limits are fixed when it is made, and are brought into range then: the capacity has to be
positive and is refused otherwise, the other three are raised to the least value that makes sense.

An attempt that has left is kept in `departed`.  The pool itself has no more use for it, but its
owner may still look at it and call it.
-/

namespace LoadDispatch

/-- Why an attempt has left a pool. -/
inductive Departure where
  /-- Its job was seen finished. -/
  | completed
  /-- Its job failed and the retry budget is used up. -/
  | abandoned
  /-- The pool was closed. -/
  | closed
deriving DecidableEq, Repr

/-- An attempt that has left a pool. -/
structure Departed where
  /-- Why it left. -/
  why : Departure
  /-- The attempt, as it is now. -/
  attempt : Attempt
deriving DecidableEq, Repr

/-- The limits of a pool. -/
structure PoolLimits where
  /-- The greatest number of attempts in flight. -/
  capacity : Nat
  /-- The submissions each job has. -/
  submissions : Nat
  /-- The seconds to wait after a pass that made no slot free. -/
  pollInterval : Float
  /-- The greatest number of status queries in progress at once. -/
  statusChecks : Nat
  /-- There is room for an attempt. -/
  capacity_pos : 0 < capacity
  /-- Each job can be submitted. -/
  submissions_pos : 0 < submissions
  /-- A status query can be made. -/
  statusChecks_pos : 0 < statusChecks

namespace PoolLimits

/-- The capacity of a pool if nobody says otherwise. -/
def defaultCapacity : Int := 1000

/-- The number of status queries at once if nobody says otherwise. -/
def defaultStatusChecks : Int := 16

/-- A time to wait that is not negative: what is not above zero counts as zero. -/
def clampInterval (seconds : Float) : Float :=
  if 0.0 < seconds then seconds else 0.0

/-- A number that is at least one. -/
def clampCount (n : Int) : Nat :=
  (max 1 n).toNat

theorem clampCount_pos (n : Int) : 0 < clampCount n := by
  unfold clampCount; omega

/-- The limits that are asked for, brought into range. -/
def ofRequest? (capacity submissions : Int) (pollInterval : Float) (statusChecks : Int) :
    Except Fault PoolLimits :=
  if h : 1 ≤ capacity then
    .ok {
      capacity := capacity.toNat
      submissions := clampCount submissions
      pollInterval := clampInterval pollInterval
      statusChecks := clampCount statusChecks
      capacity_pos := RetryBudget.toNat_pos h
      submissions_pos := clampCount_pos _
      statusChecks_pos := clampCount_pos _ }
  else .error .noCapacity

/-- The limits that are asked for are the limits that there are, each brought into its range. -/
theorem ofRequest?_eq_ok {capacity submissions statusChecks : Int} {pollInterval : Float}
    {l : PoolLimits} (h : ofRequest? capacity submissions pollInterval statusChecks = .ok l) :
    l.capacity = capacity.toNat ∧ l.submissions = clampCount submissions ∧
      l.pollInterval = clampInterval pollInterval ∧ l.statusChecks = clampCount statusChecks := by
  unfold ofRequest? at h
  split at h
  · cases h
    exact ⟨rfl, rfl, rfl, rfl⟩
  · cases h

/-- The retry budget of a new attempt. -/
def budget (l : PoolLimits) : RetryBudget :=
  { limit := l.submissions, limit_pos := l.submissions_pos }

end PoolLimits

/-- The attempts in flight, and the count of those that are done. -/
structure Pool where
  /-- The limits. -/
  limits : PoolLimits
  /-- The attempts that have not left, oldest first. -/
  inFlight : List Attempt := []
  /-- The attempts that have left, in the order of leaving. -/
  departed : List Departed := []
  /-- How many jobs were seen finished. -/
  completed : Nat := 0
  /-- How many jobs were given up with their retry budget used up. -/
  abandoned : Nat := 0

namespace Pool

variable {m : Type → Type} [Monad m]

/-- Whether no more attempt may be admitted. -/
def isFull (p : Pool) : Bool :=
  p.limits.capacity ≤ p.inFlight.length

/-- Tells the number of attempts in flight. -/
def tellCount (env : Environment m) (p : Pool) : m Unit :=
  env.tell (.inFlight p.inFlight.length)

end Pool

end LoadDispatch
