import LoadDispatch.Fault

/-!
# Retry budgets

A job may be submitted a fixed number of times.  A `RetryBudget` counts the submissions that were
granted; that it never grants more than its limit, and that the limit is positive, is part of the
type.
-/

namespace LoadDispatch

/-- A limit on submissions and the number of those granted. -/
structure RetryBudget where
  /-- How many submissions are granted in all. -/
  limit : Nat
  /-- How many have been granted so far. -/
  used : Nat := 0
  /-- At least one submission is granted. -/
  limit_pos : 0 < limit
  /-- No more than the limit is granted. -/
  used_le : used ≤ limit := by omega
deriving DecidableEq, Repr

namespace RetryBudget

/-- The number of submissions a job has if nobody says otherwise. -/
def defaultLimit : Int := 3

theorem toNat_pos {limit : Int} (h : 1 ≤ limit) : 0 < limit.toNat := by
  omega

/-- A fresh budget, if the limit is positive. -/
def ofLimit? (limit : Int) : Except Fault RetryBudget :=
  if h : 1 ≤ limit then .ok { limit := limit.toNat, limit_pos := toNat_pos h }
  else .error .noAttempts

/-- Grants one submission; `none` if all have been granted. -/
def spend? (b : RetryBudget) : Option RetryBudget :=
  if h : b.used < b.limit then
    some { b with used := b.used + 1, used_le := h }
  else none

/-- A budget is refused exactly when it is used up. -/
theorem spend?_eq_none_iff (b : RetryBudget) : b.spend? = none ↔ b.used = b.limit := by
  have := b.used_le
  unfold spend?
  split <;> simp <;> omega

/-- What a granted submission does to a budget. -/
theorem spend?_eq_some {b b' : RetryBudget} (h : b.spend? = some b') :
    b'.limit = b.limit ∧ b'.used = b.used + 1 := by
  unfold spend? at h
  split at h
  · cases h; exact ⟨rfl, rfl⟩
  · cases h

end RetryBudget

end LoadDispatch
