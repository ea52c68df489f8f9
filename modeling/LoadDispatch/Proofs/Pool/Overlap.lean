import Mathlib.Order.Bounds.Basic
import LoadDispatch.Proofs.Pool.Capacity
import LoadDispatch.Proofs.Pool.Interleaving
import LoadDispatch.Rehearsal.Services

/-!
# How many queries overlap

A pass begins with a notice of how many status queries it will have in progress at once.  It is the
greatest number that any course of the pass leads to (`PassRun.isGreatest_inProgress`): each query
in progress has a permit and an attempt of its own that is asked about, and if nobody is answered
before all permits are taken, there is a moment at which no more can begin.

A sweep in a world asks about one attempt after the other.  What a rehearsal counts in its events,
`Rehearsal.peakPolls`, is this number (`Pool.Sweeps.isGreatest_peakPolls`).
-/

namespace LoadDispatch

/-! ## The queries of a pass -/

section Queries

variable {p : Pool} {seen : List PassEvent} {checks done : List StatusCheck} {as : List Attempt}

/-- A query in progress is about an attempt that a pass asks about. -/
theorem Checking.inProgress_le_pollable (h : Checking p seen checks) :
    Checks.inProgress checks ≤ p.pollable := by
  have hasks : ∀ c ∈ checks, c.isAsking → c.attempt.asksFor.isSome := by
    intro c hc hasking
    obtain ⟨i, hi⟩ := List.mem_iff_getElem?.mp hc
    have hshown := h.shown i c hi
    obtain ⟨a, state⟩ := c
    cases state with
    | waiting | ended => cases hasking
    | asking =>
        obtain ⟨job, hsome, -⟩ := hshown
        exact Option.isSome_of_eq_some hsome
  rw [Pool.pollable, ← h.attempts, List.countP_map]
  exact List.countP_mono_left hasks

/-- With permits for `k` more queries these can all begin before anyone is answered. -/
theorem exists_passRun_of_permits {k : Nat} (hasks : k ≤ as.countP (·.asksFor.isSome))
    (hpermits : Checks.inProgress done + k ≤ p.limits.statusChecks) :
    ∃ seen last, Steps (PassStep p) (.checking (done ++ Checks.initial as)) seen
        (.checking (done ++ last)) ∧ Checks.inProgress last = k := by
  induction as generalizing k done with
  | nil => exact ⟨[], [], .refl _, (Nat.le_zero.mp hasks).symm⟩
  | cons a rest ih =>
      -- The first attempt takes a permit if there is somebody to ask, and else waits in front of
      -- those that do.
      match hasked : a.asksFor, k with
      | _, 0 => exact ⟨[], _, .refl _, inProgress_initial _⟩
      | none, k + 1 =>
          have hrest : k + 1 ≤ rest.countP (·.asksFor.isSome) := by
            simpa [List.countP_cons, hasked] using hasks
          have hdone : Checks.inProgress (done ++ [⟨a, .waiting⟩]) = Checks.inProgress done := by
            rw [inProgress_middle]
            rfl
          obtain ⟨seen, last, hrun, hlast⟩ := ih hrest (hdone ▸ hpermits)
          rw [List.append_assoc, List.append_assoc] at hrun
          have hlast' : Checks.inProgress (⟨a, .waiting⟩ :: last) = k + 1 := by
            rw [Checks.inProgress_cons, hlast]
            rfl
          exact ⟨seen, ⟨a, .waiting⟩ :: last, hrun, hlast'⟩
      | some job, k + 1 =>
          have hrest : k ≤ rest.countP (·.asksFor.isSome) := by
            simpa [List.countP_cons, hasked] using hasks
          have hdone : Checks.inProgress (done ++ [⟨a, .asking⟩]) =
              Checks.inProgress done + 1 := by
            rw [inProgress_middle]
            rfl
          obtain ⟨seen, last, hrun, hlast⟩ :=
            ih hrest (show Checks.inProgress (done ++ [⟨a, .asking⟩]) + k ≤ _ by omega)
          have hroom : Checks.inProgress (done ++ ⟨a, .waiting⟩ :: Checks.initial rest) <
              p.limits.statusChecks := by
            rw [inProgress_middle, inProgress_initial]
            simp only [StatusCheck.isAsking, Bool.false_eq_true, if_false]
            omega
          have hask : PassStep p (.checking (done ++ ⟨a, .waiting⟩ :: Checks.initial rest)) _
              (.checking (done ++ ⟨a, .asking⟩ :: Checks.initial rest)) :=
            .check (.mk done (Checks.initial rest) (.ask hasked hroom))
          rw [List.append_assoc, List.append_assoc] at hrun
          have hlast' : Checks.inProgress (⟨a, .asking⟩ :: last) = k + 1 := by
            rw [Checks.inProgress_cons, hlast]
            rfl
          exact ⟨_, ⟨a, .asking⟩ :: last, .trans (.single hask) hrun, hlast'⟩

/-- **A pass can have as many queries in progress as it says, and no more.** -/
theorem PassRun.isGreatest_inProgress (p : Pool) :
    IsGreatest {n | ∃ seen state, PassRun p seen state ∧ state.inProgress = n}
      (min p.limits.statusChecks p.pollable) := by
  constructor
  · have hpermits : Checks.inProgress [] + min p.limits.statusChecks p.pollable ≤
        p.limits.statusChecks := by
      rw [Checks.inProgress, List.countP_nil, Nat.zero_add]
      exact Nat.min_le_left _ _
    obtain ⟨seen, last, hrun, hlast⟩ :=
      exists_passRun_of_permits (Nat.min_le_right _ p.pollable) hpermits
    exact ⟨seen, .checking last, hrun, hlast⟩
  · rintro _ ⟨seen, state, hrun, rfl⟩
    cases hrun.reached with
    | checking h => exact Nat.le_min.mpr ⟨h.room, h.inProgress_le_pollable⟩
    | refused => exact Nat.zero_le _
    | settling _ _ _ _ hstate =>
        rw [inProgress_eq_zero_of_not_checking hstate]
        exact Nat.zero_le _

end Queries

/-! ## What a rehearsal counts -/

namespace Rehearsal

variable {events : List Event}

/-- An event at which no pass begins leaves the greatest number as it is. -/
theorem PollCount.peak_count {e : Event} (c : PollCount) (h : ∀ n, e ≠ .told (.pass n)) :
    (c.count e).peak = c.peak := by
  cases e with
  | told notice =>
      cases notice with
      | pass n => exact absurd rfl (h n)
      | _ => rfl
  | _ => rfl

theorem PollCount.peak_foldl (c : PollCount) (h : ∀ e ∈ events, ∀ n, e ≠ .told (.pass n)) :
    (events.foldl PollCount.count c).peak = c.peak := by
  induction events generalizing c with
  | nil => rfl
  | cons e rest ih =>
      rw [List.forall_mem_cons] at h
      rw [List.foldl_cons, ih _ h.2, c.peak_count h.1]

/-- The greatest number in the events of one pass. -/
theorem peakPolls_of_pass {n limit : Nat} (hn : n ≤ limit)
    (h : ∀ e ∈ events, ∀ k, e ≠ .told (.pass k)) :
    peakPolls true limit (.told (.pass n) :: events) = n := by
  rw [peakPolls, List.foldl_cons, if_pos rfl, PollCount.peak_foldl _ h]
  simp [PollCount.count, hn]

end Rehearsal

theorem Event.Plain.ne_pass {e : Event} (h : e.Plain) (n : Nat) : e ≠ .told (.pass n) := by
  rintro rfl
  exact h

/-- **What a rehearsal counts in the events of a sweep is how many queries the pass can have in
progress at once**, as long as the service answers them all. -/
theorem Pool.Sweeps.isGreatest_peakPolls {p q : Pool} {events : List Event}
    {answer : Except Fault Nat} {limit : Nat} (h : p.Sweeps events answer q)
    (hlimit : p.pollable ≤ limit) :
    IsGreatest {n | ∃ seen state, PassRun p seen state ∧ state.inProgress = n}
      (Rehearsal.peakPolls true limit events) := by
  have hn : min p.limits.statusChecks p.pollable ≤ limit := (Nat.min_le_right _ _).trans hlimit
  have hpeak : Rehearsal.peakPolls true limit events = min p.limits.statusChecks p.pollable := by
    cases h with
    | refused hask => exact Rehearsal.peakPolls_of_pass hn fun e he => (hask.plain e he).ne_pass
    | settled hask hsettle =>
        refine Rehearsal.peakPolls_of_pass hn ?_
        simp only [List.forall_mem_append, List.forall_mem_singleton]
        exact ⟨⟨fun e he => (hask.plain e he).ne_pass, fun e he => (hsettle.plain e he).ne_pass⟩,
          by simp⟩
  rw [hpeak]
  exact PassRun.isGreatest_inProgress p

end LoadDispatch
