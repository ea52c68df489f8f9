import LoadDispatch.Proofs.Load.Conduct
import LoadDispatch.Proofs.Pool.Ownership

/-!
# Where the fault of a load comes from

A load has no faults of its own: one that ends it was the answer to something it has asked of the
world.  To say so it is enough to name the faults that may come up there.  `Event.FailsWithin P`
allows an operation to fail with a fault in `P`, and a submission or a status query besides with
one of the job service, since that is absorbed.  If everything in a load fails within `P`, so does
the load (`Pool.LoadsAll.raised`).

What makes this more than a look at each operation are the three faults that a pool makes itself: an
attempt that is released, a wait with nothing in flight, and a status that nobody handles.  The
first two never come up in a load, and the last one is put down to the answer that has brought it
up.
-/

namespace LoadDispatch

variable {P : Fault → Prop} {fault : Fault}

/-- The operation does not fail, or with a fault in `P`, or with one that is absorbed. -/
def Event.FailsWithin (P : Fault → Prop) : Event → Prop
  | .opened _ (.error fault) => P fault
  | .submitted _ _ (.error fault) => fault.isJobService = false → P fault
  | .polled _ _ (.error fault) => fault.isJobService = false → P fault
  | .polled _ _ (.ok (.unknown text)) => P (.unhandledStatus text)
  | .closed _ (.error fault) => P fault
  | .statted _ (.error fault) => P fault
  | .listed _ (.error fault) => P fault
  | _ => True

/-! ## One attempt -/

namespace Attempt

variable {a b : Attempt} {own xs ys : List Event}

theorem Asks.raised (h : a.Asks own (.error fault)) (hr : a.released = false)
    (ho : ∀ e ∈ callsOn a.session own, e.FailsWithin P) : P fault := by
  cases h with
  | unasked _ hanswer => simp [statusUnasked, hr] at hanswer
  | failed _ hfault => exact ho _ (mem_callsOn.mpr ⟨List.mem_cons_self, rfl⟩) hfault

theorem Submits.raised (h : a.Submits own (.error fault) b) (hr : a.released = false)
    (ho : ∀ e ∈ callsOn a.session own, e.FailsWithin P) : P fault := by
  cases h with
  | refused hr' =>
      rw [hr] at hr'
      cases hr'
  | failed _ _ hfault => exact ho _ (mem_callsOn.mpr ⟨List.mem_cons_self, rfl⟩) hfault

theorem Releases.raised (h : a.Releases own (.error fault) b)
    (ho : ∀ e ∈ callsOn a.session own, e.FailsWithin P) : P fault := by
  cases h with
  | closed => exact ho _ (mem_callsOn.mpr ⟨List.mem_cons_self, rfl⟩)

/-- Settling a status ends with a fault of an operation, or of the status. -/
theorem Settles.raised {status : PolledStatus} {first : Settlement} (hask : a.Asks xs (.ok status))
    (h : a.Settles status ys first) (hr : a.released = false) (hfault : first.fault = some fault)
    (ho : ∀ e ∈ callsOn a.session xs ++ callsOn a.session ys, e.FailsWithin P) : P fault := by
  rw [List.forall_mem_append] at ho
  cases h with
  | pending | resubmitted => cases hfault
  | @finished _ ys answer _ _ hrel =>
      cases answer with
      | ok => cases hfault
      | error =>
          cases hfault
          exact hrel.raised fun e he => ho.2 e (by simpa using he)
  | @givenUp _ _ answer _ _ hsub hrel =>
      obtain ⟨rfl, -, -⟩ := hsub.spent_of_false
      rw [callsOn_append, List.forall_mem_append] at ho
      cases answer with
      | ok => cases hfault
      | error =>
          cases hfault
          exact hrel.raised ho.2.2
  | failed hsub =>
      cases hfault
      exact hsub.raised hr ho.2
  | unknown text =>
      cases hfault
      -- The status that nobody handles was the answer to a query.
      obtain ⟨job, hcalls⟩ := hask.polled_of_ne_failed (by simp)
      exact ho.1 (.polled a.session job (.ok (.unknown text))) (by simp [hcalls])

end Attempt

namespace Pool

variable {p q : Pool} {passes : Nat} {replication : Int} {before events : List Event}

/-! ## Sweeps and waits -/

theorem Sweeps.raised (h : p.Sweeps events (.error fault) q) (hn : (sessionsOf p.inFlight).Nodup)
    (hheld : p.Held) (ho : ∀ e ∈ events, e.FailsWithin P) : P fault := by
  have hcalls : ∀ s, ∀ e ∈ callsOn s events, e.FailsWithin P :=
    fun s e he => ho e (mem_callsOn.mp he).1
  rcases h.blame hn with ⟨a, ha, own, hask, hown⟩ | ⟨a, own, status, more, first, hat, hfault⟩
  · exact hask.raised (hheld a ha) (hown ▸ hcalls a.session)
  · exact hat.settles.raised hat.asks (hheld a hat.mem) hfault
      (hat.calls_eq hn ▸ hcalls a.session)

theorem Waits.raised (h : Waits passes p events (.raised fault) q)
    (hn : (sessionsOf p.inFlight).Nodup) (hheld : p.Held)
    (ho : ∀ e ∈ events, e.FailsWithin P) : P fault := by
  generalize houtcome : Outcome.raised fault = outcome at h
  induction h with
  | tired | freed => cases houtcome
  | broken hsweep =>
      cases houtcome
      exact hsweep.raised hn hheld ho
  | again hsweep _ ih =>
      rw [List.forall_mem_append, List.forall_mem_cons] at ho
      exact ih (hn.sublist hsweep.among.2) (Move.held (.sweep hsweep) hn hheld) ho.2.2 houtcome

/-- A wait with something in flight ends with a fault of an operation. -/
theorem WaitsForSlot.raised (h : WaitsForSlot passes p events (.raised fault) q)
    (hne : p.inFlight ≠ []) (hn : (sessionsOf p.inFlight).Nodup) (hheld : p.Held)
    (ho : ∀ e ∈ events, e.FailsWithin P) : P fault := by
  cases h with
  | idle hnil => exact absurd hnil hne
  | waits _ hwaits => exact hwaits.raised hn hheld ho

theorem Drains.raised {waits : Nat} (h : Drains passes waits p events (.raised fault) q)
    (l : Ledger before p) (hheld : p.Held) (hn : (openedIn (before ++ events)).Nodup)
    (ho : ∀ e ∈ events, e.FailsWithin P) : P fault := by
  generalize houtcome : Outcome.raised fault = outcome at h
  induction h generalizing before with
  | done | tired | unfinished => cases houtcome
  | broken _ hwaits =>
      cases houtcome
      exact hwaits.raised (l.nodup_inFlight (nodup_openedIn_left hn)) hheld ho
  | waited _ hwaits _ ih =>
      rw [List.forall_mem_append] at ho
      rw [← List.append_assoc] at hn
      have hn' := nodup_openedIn_left hn
      exact ih (l.moves hwaits.moves hn') (hwaits.moves.held l hn' hheld) hn ho.2 houtcome

/-! ## Admissions and walks -/

theorem Places.raised {config : JobConfig} (h : Places config p events (.error fault) q)
    (ho : ∀ e ∈ events, e.FailsWithin P) : P fault := by
  cases h with
  | refused => exact ho _ List.mem_cons_self
  | failed hsub =>
      refine hsub.raised rfl fun e he => ho e ?_
      exact List.mem_cons_of_mem _ (List.mem_cons_of_mem _ (mem_callsOn.mp he).1)

theorem Admits.raised {config : JobConfig} (h : Admits passes config p events (.raised fault) q)
    (l : Ledger before p) (hheld : p.Held) (hn : (openedIn (before ++ events)).Nodup)
    (ho : ∀ e ∈ events, e.FailsWithin P) : P fault := by
  have hfull : ∀ xs r, p.isFull = true → WaitsForSlot passes p xs (.raised fault) r →
      (∀ e ∈ xs, e.FailsWithin P) → P fault := fun xs r hf hwaits =>
    hwaits.raised (inFlight_ne_nil_of_full hf) (l.nodup_inFlight (nodup_openedIn_left hn)) hheld
  generalize houtcome : Outcome.raised fault = outcome at h
  cases h with
  | @atOnce _ answer _ _ hplace =>
      cases answer <;> cases houtcome
      exact hplace.raised ho
  | @waited _ _ _ answer _ _ _ _ hplace =>
      cases answer <;> cases houtcome
      exact hplace.raised (List.forall_mem_append.mp ho).2
  | broken hf hwaits =>
      cases houtcome
      exact hfull _ _ hf hwaits ho
  | unfinished => cases houtcome

theorem Walks.raised {es : List Errand}
    (h : Walks passes replication es p events (.raised fault) q) (l : Ledger before p)
    (hheld : p.Held) (hn : (openedIn (before ++ events)).Nodup)
    (ho : ∀ e ∈ events, e.FailsWithin P) : P fault := by
  generalize houtcome : Outcome.raised fault = outcome at h
  induction h generalizing before with
  | done | tired | waiting => cases houtcome
  | lost =>
      cases houtcome
      exact ho _ List.mem_cons_self
  | unlisted =>
      cases houtcome
      exact ho _ (List.mem_cons_of_mem _ List.mem_cons_self)
  | refused _ _ hadmits =>
      cases houtcome
      exact hadmits.raised l hheld hn ho
  | leaf _ _ ih | resident _ _ ih =>
      rw [List.append_cons] at hn
      exact ih (l.idle rfl rfl) hheld hn (List.forall_mem_cons.mp ho).2 houtcome
  | folder _ _ ih =>
      rw [List.append_cons, List.append_cons] at hn
      rw [List.forall_mem_cons, List.forall_mem_cons] at ho
      exact ih ((l.idle rfl rfl).idle rfl rfl) hheld hn ho.2.2 houtcome
  | loading _ hadmits _ ih =>
      rw [List.forall_mem_append, List.forall_mem_cons] at ho
      rw [← List.append_assoc, List.append_cons] at hn
      have hn' := nodup_openedIn_left (nodup_openedIn_left hn)
      exact ih ((l.moves hadmits.moves hn').idle rfl rfl) (hadmits.moves.held l hn' hheld) hn ho.2.2
        houtcome

/-- **The fault that ends the inside of a load came up in an operation.** -/
theorem LoadsAll.raised {patience : Patience} {request : LoadRequest}
    (h : LoadsAll patience request p events (.raised fault) q) (l : Ledger before p)
    (hheld : p.Held) (hn : (openedIn (before ++ events)).Nodup)
    (ho : ∀ e ∈ events, e.FailsWithin P) : P fault := by
  cases h with
  | walked hwalk hdrain =>
      rw [List.forall_mem_append] at ho
      rw [← List.append_assoc] at hn
      have hn' := nodup_openedIn_left hn
      exact hdrain.raised (l.moves hwalk.moves hn') (hwalk.moves.held l hn' hheld) hn ho.2
  | aborted hwalk => exact hwalk.raised l hheld hn ho

end Pool

end LoadDispatch
