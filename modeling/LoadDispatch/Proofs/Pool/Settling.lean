import LoadDispatch.Proofs.Pool.Refusal

/-!
# What a sweep settles

Once everyone in flight has a status, a sweep goes through the statuses in order and stops at the
first one whose handling ends with a fault.  So it comes down to a number `k`: the attempts in front
of `k` are handled, the one at `k` is handled as far as its fault, and those behind are not touched.
If nobody's handling ends with a fault, `k` is the number of attempts.

`Attempt.Handles` is the handling of one open attempt, with the calls that it makes.  It is
`Attempt.Settles` for an attempt that is not released, where a status leaves few ways to go on.
`SettledUpTo` is the handling of a list up to a number.  Its three lemmas follow the constructors of
`SettlesAll`, and the pool afterwards is read off it.
-/

namespace LoadDispatch

namespace Attempt

/-- The handling of the status of an open attempt, with the calls on its session. -/
inductive Handles (a : Attempt) : PolledStatus → List Event → Settlement → Prop where
  /-- The job is on its way: nothing is called, and the attempt stays as it is. -/
  | pending {status : JobStatus} : status.isPending = true →
    Handles a (.known status) [] { attempt := a }
  /-- The job is done: the session is closed, and the attempt leaves also if that fails. -/
  | finished {status : JobStatus} (answer : Except Fault Unit) : status.isFinished = true →
    Handles a (.known status) [.closed a.session answer]
      (leaving .completed answer { a with released := true })
  /-- The job failed and budget is left: it is submitted again, and the attempt stays.  Only a
  fault that is not the job service's ends the handling. -/
  | resubmitted {budget : RetryBudget} (reply : Except Fault (Option Int)) :
    a.budget.spend? = some budget →
    Handles a (.known .failed) [.submitted a.session a.config reply]
      { attempt := { a with budget, jobId := reply.toOption.join }
        fault := (fault? reply).filter (!·.isJobService) }
  /-- The job failed and no budget is left: the session is closed, and the attempt leaves also if
  that fails. -/
  | givenUp (answer : Except Fault Unit) : a.budget.used = a.budget.limit →
    Handles a (.known .failed) [.closed a.session answer]
      (leaving .abandoned answer { a with released := true })
  /-- The status is none of the five: nothing is called. -/
  | unknown (text : String) :
    Handles a (.unknown text) [] { attempt := a, fault := some (.unhandledStatus text) }

section Handles

variable {a b : Attempt} {status : PolledStatus} {events : List Event} {first : Settlement}

/-- What settling does to an open attempt is one of the ways to handle its status. -/
theorem Settles.handles (h : a.Settles status events first) (hopen : a.released = false) :
    a.Handles status (events.filter (·.callOn?.isSome)) first := by
  cases h with
  | pending hpending => exact .pending hpending
  | finished hfinished hrelease =>
      obtain ⟨rfl, rfl⟩ := hrelease.of_open hopen
      exact .finished _ hfinished
  | resubmitted hsubmit =>
      cases hsubmit with
      | answered jobId _ hbudget => exact .resubmitted (.ok jobId) hbudget
      | @absorbed _ fault _ hbudget hservice =>
          have hhandled := Handles.resubmitted (.error fault) hbudget
          rwa [fault?_error, Option.filter_some, hservice] at hhandled
  | givenUp hsubmit hrelease =>
      cases hsubmit with
      | spent _ hbudget =>
          obtain ⟨rfl, rfl⟩ := hrelease.of_open hopen
          exact .givenUp _ (a.budget.spend?_eq_none_iff.mp hbudget)
  | @failed _ fault _ hsubmit =>
      cases hsubmit with
      | refused hreleased => rw [hopen] at hreleased; cases hreleased
      | failed _ hbudget hservice =>
          have hhandled := Handles.resubmitted (.error fault) hbudget
          rwa [fault?_error, Option.filter_some, hservice] at hhandled
  | unknown text => exact .unknown text

/-- An attempt stays exactly if its session is not closed. -/
theorem Handles.stays_iff (h : a.Handles status events first) (hopen : a.released = false) :
    first.departure = none ↔ first.attempt.released = false := by
  cases h <;> simp [leaving, hopen]

/-- An attempt leaves because its job is completed or abandoned. -/
theorem Handles.departure_ne_closed (h : a.Handles status events first) :
    first.departure ≠ some .closed := by
  cases h <;> simp [leaving]

end Handles

end Attempt

/-- One attempt that was handled. -/
structure Handling where
  /-- The attempt before. -/
  before : Attempt
  /-- Its status. -/
  status : PolledStatus
  /-- The calls on its session. -/
  calls : List Event
  /-- What has become of it. -/
  result : Settlement

namespace Handling

/-- The attempt afterwards, if it stays in flight. -/
def stays? (h : Handling) : Option Attempt :=
  match h.result.departure with
  | none => some h.result.attempt
  | some _ => none

/-- The attempt afterwards, if it leaves. -/
def leaves? (h : Handling) : Option Departed :=
  h.result.departure.map (⟨·, h.result.attempt⟩)

end Handling

/-- The statuses of attempts are handled in order, up to the first whose handling ends with a fault
and including it.  That is the one with index `k`; there is none if `k` is their number. -/
structure SettledUpTo (pairs : List (Attempt × PolledStatus)) (done : List Handling) (k : Nat) :
    Prop where
  /-- There is no more than everyone. -/
  le : k ≤ pairs.length
  /-- Those up to `k` are handled, in order. -/
  reached : done.map (fun h => (h.before, h.status)) = pairs.take (k + 1)
  /-- Each is handled as its status says. -/
  handled : ∀ h ∈ done, h.before.Handles h.status h.calls h.result
  /-- Only the handling of `k` ends with a fault. -/
  faulty_iff : ∀ i h, done[i]? = some h → (h.result.fault.isSome = true ↔ i = k)

/-- What settling has done to a list is told by how each was handled. -/
structure Sweep.Reports (s : Sweep) (events : List Event) (done : List Handling) (k : Nat)
    (behind : List Attempt) : Prop where
  /-- No other call is made. -/
  calls : events.filter (·.callOn?.isSome) = done.flatMap (·.calls)
  /-- Those that stay are followed by those that were not reached. -/
  kept : s.kept = done.filterMap (·.stays?) ++ behind
  /-- Those that leave. -/
  gone : s.gone = done.filterMap (·.leaves?)
  /-- The sweep ends with the fault of the handling of `k`. -/
  fault : s.fault = done[k]?.bind (·.result.fault)

section SettledUpTo

variable {pairs : List (Attempt × PolledStatus)} {a : Attempt} {status : PolledStatus}
  {xs ys events : List Event} {first : Settlement} {s : Sweep} {done : List Handling}
  {behind : List Attempt} {k : Nat}

theorem SettledUpTo.nil : SettledUpTo [] [] 0 where
  le := le_rfl
  reached := rfl
  handled := by simp
  faulty_iff := by simp

/-- One more in front, without a fault. -/
theorem SettledUpTo.cons (h : SettledUpTo pairs done k) (hfirst : a.Handles status xs first)
    (hfault : first.fault = none) :
    SettledUpTo ((a, status) :: pairs) (⟨a, status, xs, first⟩ :: done) (k + 1) where
  le := Nat.succ_le_succ h.le
  reached := by rw [List.map_cons, h.reached, List.take_succ_cons]
  handled := List.forall_mem_cons.mpr ⟨hfirst, h.handled⟩
  faulty_iff := by
    intro i handling hi
    cases i with
    | zero =>
        cases hi
        simp [hfault]
    | succ i => exact (h.faulty_iff i handling hi).trans (Nat.succ_inj).symm

/-- One with a fault, and nobody behind it is handled. -/
theorem SettledUpTo.broken (hfirst : a.Handles status xs first)
    (hfault : first.fault.isSome = true) :
    SettledUpTo ((a, status) :: pairs) [⟨a, status, xs, first⟩] 0 where
  le := Nat.zero_le _
  reached := rfl
  handled := by simpa using hfirst
  faulty_iff := by
    intro i handling hi
    cases i with
    | zero =>
        cases hi
        simpa using hfault
    | succ i => cases hi

theorem SettledUpTo.length_eq (h : SettledUpTo pairs done k) :
    done.length = min (k + 1) pairs.length := by
  rw [← List.length_take, ← h.reached, List.length_map]

theorem Sweep.Reports.nil : Sweep.Reports {} [] [] 0 [] :=
  ⟨rfl, rfl, rfl, rfl⟩

theorem Sweep.Reports.cons (h : s.Reports ys done k behind) (handling : Handling)
    (hresult : handling.result = first)
    (hcalls : handling.calls = xs.filter (·.callOn?.isSome)) :
    (Sweep.cons first s).Reports (xs ++ ys) (handling :: done) (k + 1) behind where
  calls := by rw [List.filter_append, h.calls, List.flatMap_cons, hcalls]
  kept := by
    rw [List.filterMap_cons, Handling.stays?, hresult, Sweep.cons]
    cases first.departure <;> simp [h.kept]
  gone := by
    rw [List.filterMap_cons, Handling.leaves?, hresult, Sweep.cons]
    cases first.departure <;> simp [h.gone]
  fault := by rw [Sweep.fault_cons, h.fault, List.getElem?_cons_succ]

theorem Sweep.Reports.broken {fault : Fault} (hfault : first.fault = some fault)
    (handling : Handling) (hresult : handling.result = first)
    (hcalls : handling.calls = xs.filter (·.callOn?.isSome)) (behind : List Attempt) :
    (Sweep.cons first (.broken behind fault)).Reports xs [handling] 0 behind where
  calls := by rw [List.flatMap_singleton, hcalls]
  kept := by
    rw [List.filterMap_cons, Handling.stays?, hresult, Sweep.cons]
    cases first.departure <;> rfl
  gone := by
    rw [List.filterMap_cons, Handling.leaves?, hresult, Sweep.cons]
    cases first.departure <;> rfl
  fault := by
    rw [Sweep.fault_cons]
    simp [hresult, hfault, Sweep.broken]

/-- **Settling open attempts handles them in order**, up to the first fault. -/
theorem SettlesAll.settledUpTo (h : SettlesAll pairs events s)
    (hopen : ∀ pair ∈ pairs, pair.1.released = false) :
    ∃ done k, SettledUpTo pairs done k ∧
      s.Reports events done k ((pairs.drop (k + 1)).map Prod.fst) := by
  induction h with
  | nil => exact ⟨[], 0, .nil, .nil⟩
  | cons hfirst hfault _ ih =>
      rw [List.forall_mem_cons] at hopen
      obtain ⟨done, k, hdone, hreports⟩ := ih hopen.2
      exact ⟨_ :: done, k + 1, hdone.cons (hfirst.handles hopen.1) hfault,
        hreports.cons _ rfl rfl⟩
  | broken hfirst hfault =>
      have hopen := hopen _ List.mem_cons_self
      exact ⟨[_], 0, .broken (hfirst.handles hopen) (by rw [hfault]; rfl),
        .broken hfault _ rfl rfl _⟩

end SettledUpTo

/-! ## Counting -/

section Counting

variable {done : List Handling}

/-- Everyone who was handled stays or leaves. -/
theorem length_stays_add_length_leaves (done : List Handling) :
    (done.filterMap (·.stays?)).length + (done.filterMap (·.leaves?)).length = done.length := by
  induction done with
  | nil => rfl
  | cons h rest ih =>
      rw [List.filterMap_cons, List.filterMap_cons, Handling.stays?, Handling.leaves?,
        List.length_cons, ← ih]
      cases h.result.departure with
      | none => exact Nat.add_right_comm _ 1 _
      | some why => exact (Nat.add_assoc _ _ 1).symm

/-- Everyone who leaves does so for a reason that is counted. -/
theorem length_leaves_eq_countP
    (hhandled : ∀ h ∈ done, h.before.Handles h.status h.calls h.result) :
    (done.filterMap (·.leaves?)).length =
      done.countP (·.result.departure = some .completed) +
        done.countP (·.result.departure = some .abandoned) := by
  induction done with
  | nil => rfl
  | cons h rest ih =>
      rw [List.forall_mem_cons] at hhandled
      have hclosed := hhandled.1.departure_ne_closed
      rw [List.filterMap_cons, Handling.leaves?, List.countP_cons, List.countP_cons]
      match hwhy : h.result.departure with
      | none => simpa using ih hhandled.2
      | some .completed => simp [ih hhandled.2]; omega
      | some .abandoned => simp [ih hhandled.2]; omega
      | some .closed => exact absurd hwhy hclosed

/-- The counters of a sweep count who was handled. -/
theorem Sweep.Reports.count_eq {s : Sweep} {events : List Event} {k : Nat}
    {behind : List Attempt} (h : s.Reports events done k behind) (why : Departure) :
    s.count why = done.countP (·.result.departure = some why) := by
  rw [Sweep.count, h.gone, List.countP_filterMap]
  refine List.countP_congr fun handling _ => ?_
  rw [Handling.leaves?]
  cases handling.result.departure <;> simp

end Counting

/-- A status for everyone means that everyone is open. -/
theorem AsksAll.released_eq_false {as : List Attempt} {events : List Event}
    {statuses : List PolledStatus} (h : AsksAll as events (statuses.map .ok)) :
    ∀ a ∈ as, a.released = false := by
  generalize hanswers : statuses.map Except.ok = answers at h
  induction h generalizing statuses with
  | nil => simp
  | cons hask _ ih =>
      cases statuses with
      | nil => cases hanswers
      | cons status rest =>
          obtain ⟨rfl, hrest⟩ := List.cons.inj hanswers
          exact List.forall_mem_cons.mpr ⟨hask.released_eq_false, ih hrest⟩

theorem collect_map_ok {α : Type} (values : List α) :
    collect (values.map Except.ok : List (Except Fault α)) = .ok values := by
  induction values with
  | nil => rfl
  | cons value rest ih =>
      rw [List.map_cons, collect, ih]
      rfl

namespace Pool

variable {ω : Type} {w : World ω}

/-- With a status for everyone, the rest of a sweep is settling. -/
theorem finishSweep_ensures (p : Pool) (statuses : List PolledStatus) :
    Ensures w (p.finishSweep w.environment (statuses.map .ok)) fun r events =>
      ∃ settling s, events = settling ++ [.told (.inFlight (p.applySweep s).inFlight.length)] ∧
        SettlesAll (p.inFlight.zip statuses) settling s ∧ r = (s.answer, p.applySweep s) := by
  rw [finishSweep, collect_map_ok]
  refine (settleAll_ensures _).bind fun s settling hsettle => ?_
  refine (Ensures.tell _).bind ?_
  rintro - _ rfl
  unfold Sweep.answer
  cases hfault : s.fault with
  | some fault => exact .pure ⟨settling, s, by simp, hsettle, by rw [hfault]⟩
  | none => exact .pure ⟨settling, s, by simp, hsettle, by rw [hfault]⟩

/-- A sweep that has a status for everyone settles these, and nothing else. -/
theorem sweep_settlesAll {p q : Pool} {d d₀ d₁ : Desk ω} {statuses : List PolledStatus}
    {answer : Except Fault Nat} (hasked : p.ask w.environment d = (statuses.map .ok, d₀))
    (hswept : p.sweep w.environment d = ((answer, q), d₁)) :
    ∃ settling s, SettlesAll (p.inFlight.zip statuses) settling s ∧
      answer = s.answer ∧ q = p.applySweep s ∧
      d₁.eventsSince d₀.journal.length =
        settling ++ [.told (.inFlight (p.applySweep s).inFlight.length)] := by
  rw [sweep_eq, hasked] at hswept
  obtain ⟨-, settling, s, hevents, hsettle, hresult⟩ :=
    (finishSweep_ensures p statuses).of_run hswept
  exact ⟨settling, s, hsettle, congrArg Prod.fst hresult, congrArg Prod.snd hresult, hevents⟩

/-- **What a sweep settles**, finished or broken off.  In any world and whatever the pool is, let a
sweep have a status for everyone in flight, so that everyone is open.  There is a number `k` such
that the statuses of those in front of it are handled in order without a fault, and that of `k`, if
there is somebody, is handled and ends with one; and then:

* an attempt that was handled stays exactly if its session was not closed;
* no calls are made but those of the handlings, in order;
* in flight are those that stay, in their old order, and behind them those that were not reached;
* the counters count those that left, so their sum goes up by as much as the number in flight goes
  down;
* the sweep returns that number if there is nobody at `k`, and otherwise ends with the fault of the
  handling of `k`. -/
theorem sweep_settles_in_order {ω : Type} (w : World ω) (p q : Pool) (d d₀ d₁ : Desk ω)
    (statuses : List PolledStatus) (answer : Except Fault Nat)
    (hasked : p.ask w.environment d = (statuses.map .ok, d₀))
    (hswept : p.sweep w.environment d = ((answer, q), d₁)) :
    p.inFlight.length = statuses.length ∧ (∀ a ∈ p.inFlight, a.released = false) ∧
    ∃ done k, SettledUpTo (p.inFlight.zip statuses) done k ∧
      (∀ h ∈ done, h.result.departure = none ↔ h.result.attempt.released = false) ∧
      (d₁.eventsSince d₀.journal.length).filter (·.callOn?.isSome) = done.flatMap (·.calls) ∧
      q.inFlight = done.filterMap (·.stays?) ++ p.inFlight.drop (k + 1) ∧
      q.departed = p.departed ++ done.filterMap (·.leaves?) ∧
      q.completed = p.completed + done.countP (·.result.departure = some .completed) ∧
      q.abandoned = p.abandoned + done.countP (·.result.departure = some .abandoned) ∧
      q.inFlight.length + (q.completed + q.abandoned) =
        p.inFlight.length + (p.completed + p.abandoned) ∧
      (k = p.inFlight.length → answer = .ok (p.inFlight.length - q.inFlight.length)) ∧
      (k < p.inFlight.length → ∃ h fault, done[k]? = some h ∧ h.result.fault = some fault ∧
        answer = .error fault) := by
  obtain ⟨polls, -, hpolls⟩ := ask_asks w p d
  rw [hasked] at hpolls
  have hlength : p.inFlight.length = statuses.length := by
    rw [hpolls.length_eq, List.length_map]
  have hopen : ∀ a ∈ p.inFlight, a.released = false := hpolls.released_eq_false
  have hopenPairs : ∀ pair ∈ p.inFlight.zip statuses, pair.1.released = false := fun pair hpair =>
    hopen _ (List.of_mem_zip hpair).1
  obtain ⟨settling, s, hsettle, hanswer, hq, hevents⟩ := sweep_settlesAll hasked hswept
  obtain ⟨done, k, hdone, hreports⟩ := hsettle.settledUpTo hopenPairs
  have hkept : q.inFlight = done.filterMap (·.stays?) ++ p.inFlight.drop (k + 1) := by
    rw [hq, applySweep, hreports.kept, List.map_drop, List.map_fst_zip hlength.le]
  have hgone : q.inFlight.length + s.gone.length = p.inFlight.length := by
    have hdoneLength := hdone.length_eq
    rw [List.length_zip, ← hlength, Nat.min_self] at hdoneLength
    have hparts := length_stays_add_length_leaves done
    rw [hkept, hreports.gone, List.length_append, List.length_drop]
    omega
  have hcompleted := hreports.count_eq .completed
  have habandoned := hreports.count_eq .abandoned
  refine ⟨hlength, hopen, done, k, hdone, ?_, ?_, hkept, ?_, ?_, ?_, ?_, ?_, ?_⟩
  · intro h hh
    have hpair : (h.before, h.status) ∈ p.inFlight.zip statuses := by
      refine List.mem_of_mem_take (i := k + 1) ?_
      rw [← hdone.reached]
      exact List.mem_map_of_mem hh
    exact (hdone.handled h hh).stays_iff (hopenPairs _ hpair)
  · rw [← hreports.calls, hevents, List.filter_append]
    simp
  · rw [hq, applySweep, hreports.gone]
  · rw [hq, applySweep, hcompleted]
  · rw [hq, applySweep, habandoned]
  · have hcounted := length_leaves_eq_countP hdone.handled
    rw [← hreports.gone, ← hcompleted, ← habandoned] at hcounted
    rw [← hgone, hcounted, hq]
    simp only [applySweep]
    omega
  · rintro rfl
    have hdoneLength := hdone.length_eq
    have hnone : s.fault = none := by
      rw [hreports.fault, List.getElem?_eq_none, Option.bind_none]
      rw [hdoneLength, List.length_zip, ← hlength]
      omega
    rw [hanswer, Sweep.answer, hnone, ← hgone, Nat.add_sub_cancel_left]
  · intro hk
    have hlt : k < done.length := by
      rw [hdone.length_eq, List.length_zip, ← hlength]
      omega
    have hat : done[k]? = some done[k] := List.getElem?_eq_getElem hlt
    obtain ⟨fault, hfault⟩ := Option.isSome_iff_exists.mp ((hdone.faulty_iff k _ hat).mpr rfl)
    refine ⟨done[k], fault, hat, hfault, ?_⟩
    rw [hanswer, Sweep.answer_of_fault]
    rw [hreports.fault, hat]
    exact hfault

/-- Five jobs that are seen running, completed, failed, completed and running.  The session of the
fourth one cannot be closed. -/
def brokenClosing : Rehearsal.Services where
  jobs := {
    polls := [("/a", [.status "RUNNING"]), ("/b", [.status "COMPLETED"]),
      ("/c", [.status "FAILED"]), ("/d", [.status "COMPLETED"]), ("/e", [.status "RUNNING"])]
    owners := [(1, "/a"), (2, "/b"), (3, "/c"), (4, "/d"), (5, "/e")]
    closeFaults := [(4, .outside .runtime "down")] }

/-- The jobs of `brokenClosing`, each submitted once of two times. -/
def brokenClosingPool : Pool where
  limits := {
    capacity := 5
    submissions := 2
    pollInterval := PoolLimits.clampInterval 0.0
    statusChecks := 1
    capacity_pos := Nat.succ_pos 4
    submissions_pos := Nat.two_pos
    statusChecks_pos := Nat.one_pos }
  inFlight := [("/a", 1), ("/b", 2), ("/c", 3), ("/d", 4), ("/e", 5)].map fun (path, n) =>
    { session := ⟨n⟩, config := { path }, jobId := some n,
      budget := { limit := 2, used := 1, limit_pos := Nat.two_pos } }

/-- What `brokenClosing` answers for the jobs. -/
def brokenClosingStatuses : List PolledStatus :=
  [.known .running, .known .completed, .known .failed, .known .completed, .known .running]

/-- In `brokenClosing` the sweep is broken off, and three jobs stay. -/
theorem sweep_settles_in_order_at_broken_closing :
    ∃ answer q d₁ d₀,
      brokenClosingPool.ask Rehearsal.Services.world.environment { world := brokenClosing } =
        (brokenClosingStatuses.map .ok, d₀) ∧
      brokenClosingPool.sweep Rehearsal.Services.world.environment { world := brokenClosing } =
        ((answer, q), d₁) ∧
      answer = .error (.outside .runtime "down") ∧ sessionsOf q.inFlight = [⟨1⟩, ⟨3⟩, ⟨5⟩] ∧
      ∃ done k, SettledUpTo (brokenClosingPool.inFlight.zip brokenClosingStatuses) done k ∧
        k < brokenClosingPool.inFlight.length ∧
        q.inFlight = done.filterMap (·.stays?) ++ brokenClosingPool.inFlight.drop (k + 1) := by
  have hstatuses : (brokenClosingPool.ask Rehearsal.Services.world.environment
      { world := brokenClosing }).1 = brokenClosingStatuses.map .ok := by
    decide +kernel
  have hanswer : (brokenClosingPool.sweep Rehearsal.Services.world.environment
      { world := brokenClosing }).1.1 = .error (.outside .runtime "down") := by
    decide +kernel
  have hstay : sessionsOf (brokenClosingPool.sweep Rehearsal.Services.world.environment
      { world := brokenClosing }).1.2.inFlight = [⟨1⟩, ⟨3⟩, ⟨5⟩] := by
    decide +kernel
  -- From here on the two runs are only what was just said of them.
  obtain ⟨⟨⟨answer, q⟩, d₁⟩, hswept⟩ : ∃ r, brokenClosingPool.sweep
      Rehearsal.Services.world.environment { world := brokenClosing } = r := ⟨_, rfl⟩
  obtain ⟨⟨answers, d₀⟩, hasked⟩ : ∃ r, brokenClosingPool.ask
      Rehearsal.Services.world.environment { world := brokenClosing } = r := ⟨_, rfl⟩
  rw [hswept] at hanswer hstay
  rw [hasked] at hstatuses
  obtain rfl : answers = brokenClosingStatuses.map .ok := hstatuses
  obtain ⟨-, -, done, k, hdone, -, -, hkept, -, -, -, -, hfinished, -⟩ :=
    sweep_settles_in_order Rehearsal.Services.world brokenClosingPool q { world := brokenClosing }
      d₀ d₁ brokenClosingStatuses answer hasked hswept
  refine ⟨answer, q, d₁, d₀, hasked, hswept, hanswer, hstay, done, k, hdone, ?_, hkept⟩
  -- Nobody at `k` would mean that the sweep returns.
  refine lt_of_le_of_ne (hdone.le.trans_eq rfl) fun hk => ?_
  have hreturned := hanswer.symm.trans (hfinished hk)
  cases hreturned

end Pool

end LoadDispatch
