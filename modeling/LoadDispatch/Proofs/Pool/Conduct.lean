import LoadDispatch.Proofs.Attempt.Conduct
import LoadDispatch.Pool.Operation

/-!
# What a pool does

The operations of a pool, as relations between the pool before, the events, the answer and the pool
after.  As with attempts the answers of the world are left open, and everything else is said: the
order of the events, the notices, and the state after a fault.

Loops are relations by induction.  `SettlesAll` and `ReleasesAll` follow the list of attempts,
`Waits` and `Drains` follow the passes, and the number of passes is part of the relation.
-/

namespace LoadDispatch

variable {ω : Type} {w : World ω}

/-! ## Sweeps -/

/-- What asking all attempts does. -/
inductive AsksAll : List Attempt → List Event → List (Except Fault PolledStatus) → Prop where
  /-- Nobody is left. -/
  | nil : AsksAll [] [] []
  /-- One attempt, then the others. -/
  | cons {a : Attempt} {rest : List Attempt} {xs ys : List Event}
      {answer : Except Fault PolledStatus} {answers : List (Except Fault PolledStatus)} :
    a.Asks xs answer → AsksAll rest ys answers →
    AsksAll (a :: rest) (xs ++ ys) (answer :: answers)

/-- What settling all attempts does. -/
inductive SettlesAll : List (Attempt × PolledStatus) → List Event → Sweep → Prop where
  /-- Nobody is left. -/
  | nil : SettlesAll [] [] {}
  /-- One attempt, then the others. -/
  | cons {a : Attempt} {status : PolledStatus} {rest : List (Attempt × PolledStatus)}
      {xs ys : List Event} {first : Settlement} {s : Sweep} :
    a.Settles status xs first → first.fault = none → SettlesAll rest ys s →
    SettlesAll ((a, status) :: rest) (xs ++ ys) (.cons first s)
  /-- A fault, and the attempts behind stay as they are. -/
  | broken {a : Attempt} {status : PolledStatus} {rest : List (Attempt × PolledStatus)}
      {xs : List Event} {first : Settlement} {fault : Fault} :
    a.Settles status xs first → first.fault = some fault →
    SettlesAll ((a, status) :: rest) xs (.cons first (.broken (rest.map Prod.fst) fault))

/-- The answer of a sweep that has settled: how many attempts left, unless it was broken off. -/
def Sweep.answer (s : Sweep) : Except Fault Nat :=
  match s.fault with
  | some fault => .error fault
  | none => .ok s.gone.length

theorem askAll_ensures (as : List Attempt) :
    Ensures w (askAll w.environment as) fun answers events => AsksAll as events answers := by
  induction as with
  | nil => exact .pure .nil
  | cons a rest ih =>
      refine (a.status_ensures).bind fun answer xs h => ?_
      refine ih.bind fun answers ys hs => ?_
      exact .pure (by simpa using .cons h hs)

theorem settleAll_ensures (pairs : List (Attempt × PolledStatus)) :
    Ensures w (settleAll w.environment pairs) fun s events => SettlesAll pairs events s := by
  induction pairs with
  | nil => exact .pure .nil
  | cons pair rest ih =>
      obtain ⟨a, status⟩ := pair
      refine (a.settle_ensures status).bind fun first xs h => ?_
      match hf : first.fault with
      | some fault => exact .pure (by simpa using .broken h hf)
      | none =>
          refine ih.bind fun s ys hs => ?_
          exact .pure (by simpa using .cons h hf hs)

/-- Answers can be collected only if all of them are statuses. -/
theorem eq_map_of_collect {α : Type} {answers : List (Except Fault α)} {values : List α}
    (h : collect answers = .ok values) : answers = values.map .ok := by
  induction answers generalizing values with
  | nil => cases h; rfl
  | cons answer rest ih =>
      cases answer with
      | error => cases h
      | ok value =>
          cases hrest : collect rest with
          | error => rw [collect, hrest] at h; cases h
          | ok others =>
              rw [collect, hrest] at h
              cases h
              rw [List.map_cons, ← ih hrest]

namespace Pool

/-- What a sweep does. -/
inductive Sweeps (p : Pool) : List Event → Except Fault Nat → Pool → Prop where
  /-- An attempt has no status, and nothing is settled. -/
  | refused {asking : List Event} {answers : List (Except Fault PolledStatus)} {fault : Fault} :
    AsksAll p.inFlight asking answers → collect answers = .error fault →
    Sweeps p (.told (.pass (min p.limits.statusChecks p.pollable)) :: asking) (.error fault) p
  /-- All attempts have a status, and these are settled. -/
  | settled {asking settling : List Event} {statuses : List PolledStatus} {s : Sweep} :
    AsksAll p.inFlight asking (statuses.map .ok) →
    SettlesAll (p.inFlight.zip statuses) settling s →
    Sweeps p
      (.told (.pass (min p.limits.statusChecks p.pollable)) :: (asking ++ settling ++
        [.told (.inFlight (p.applySweep s).inFlight.length)]))
      s.answer (p.applySweep s)

theorem sweep_ensures (p : Pool) :
    Ensures w (p.sweep w.environment) fun r events => p.Sweeps events r.1 r.2 := by
  refine (Ensures.tell _).bind ?_
  rintro - _ rfl
  refine (askAll_ensures p.inFlight).bind fun answers asking hask => ?_
  unfold finishSweep
  match hc : collect answers with
  | .error fault => exact .pure (by simpa using .refused hask hc)
  | .ok statuses =>
      rw [eq_map_of_collect hc] at hask
      refine (settleAll_ensures _).bind fun s settling hsettle => ?_
      refine (Ensures.tell _).bind ?_
      rintro - _ rfl
      have h := Sweeps.settled hask hsettle
      unfold Sweep.answer at h
      match hf : s.fault with
      | some fault =>
          rw [hf] at h
          exact .pure (by simpa using h)
      | none =>
          rw [hf] at h
          exact .pure (by simpa using h)

/-! ## Waiting -/

/-- What sweeping until an attempt leaves does, within a number of passes. -/
inductive Waits : Nat → Pool → List Event → Outcome Nat → Pool → Prop where
  /-- No pass is left. -/
  | tired (p : Pool) : Waits 0 p [] .unfinished p
  /-- The sweep ends with a fault. -/
  | broken {passes : Nat} {p q : Pool} {xs : List Event} {fault : Fault} :
    p.Sweeps xs (.error fault) q → Waits (passes + 1) p xs (.raised fault) q
  /-- Some attempts have left. -/
  | freed {passes removed : Nat} {p q : Pool} {xs : List Event} :
    p.Sweeps xs (.ok (removed + 1)) q →
    Waits (passes + 1) p xs (.returned (removed + 1)) q
  /-- No attempt has left: a pause, and another pass. -/
  | again {passes : Nat} {p q r : Pool} {xs ys : List Event} {outcome : Outcome Nat} :
    p.Sweeps xs (.ok 0) q → Waits passes q ys outcome r →
    Waits (passes + 1) p (xs ++ .paused q.limits.pollInterval :: ys) outcome r

/-- What waiting for a slot does. -/
inductive WaitsForSlot (passes : Nat) (p : Pool) : List Event → Outcome Nat → Pool → Prop where
  /-- Nothing is in flight. -/
  | idle : p.inFlight = [] → WaitsForSlot passes p [] (.raised .nothingInFlight) p
  /-- Something is in flight. -/
  | waits {events : List Event} {outcome : Outcome Nat} {q : Pool} : p.inFlight ≠ [] →
    Waits passes p events outcome q → WaitsForSlot passes p events outcome q

/-- What draining does, within a number of waits. -/
inductive Drains (passes : Nat) : Nat → Pool → List Event → Outcome Unit → Pool → Prop where
  /-- Nothing is in flight. -/
  | done {waits : Nat} {p : Pool} : p.inFlight = [] → Drains passes waits p [] (.returned ()) p
  /-- No wait is left. -/
  | tired {p : Pool} : p.inFlight ≠ [] → Drains passes 0 p [] .unfinished p
  /-- A wait, and more of them. -/
  | waited {waits removed : Nat} {p q r : Pool} {xs ys : List Event} {outcome : Outcome Unit} :
    p.inFlight ≠ [] → Waits passes p xs (.returned removed) q →
    Drains passes waits q ys outcome r → Drains passes (waits + 1) p (xs ++ ys) outcome r
  /-- A wait that ends with a fault. -/
  | broken {waits : Nat} {p q : Pool} {xs : List Event} {fault : Fault} :
    p.inFlight ≠ [] → Waits passes p xs (.raised fault) q →
    Drains passes (waits + 1) p xs (.raised fault) q
  /-- A wait that does not end. -/
  | unfinished {waits : Nat} {p q : Pool} {xs : List Event} :
    p.inFlight ≠ [] → Waits passes p xs .unfinished q →
    Drains passes (waits + 1) p xs .unfinished q

theorem sweepUntilFreed_ensures (passes : Nat) (p : Pool) :
    Ensures w (p.sweepUntilFreed w.environment passes) fun r events =>
      Waits passes p events r.1 r.2 := by
  induction passes generalizing p with
  | zero => exact .pure (.tired p)
  | succ passes ih =>
      refine p.sweep_ensures.bind ?_
      rintro ⟨fault | removed, q⟩ xs h
      · exact .pure (by simpa using .broken h)
      · cases removed with
        | zero =>
            refine (Ensures.pause _).bind ?_
            rintro - _ rfl
            exact (ih q).mono fun _ ys hw => .again h hw
        | succ removed => exact .pure (by simpa using .freed h)

theorem waitForSlot_ensures (passes : Nat) (p : Pool) :
    Ensures w (p.waitForSlot w.environment passes) fun r events =>
      WaitsForSlot passes p events r.1 r.2 := by
  unfold waitForSlot
  by_cases he : p.inFlight.isEmpty = true
  · rw [if_pos he]
    exact .pure (.idle (List.isEmpty_iff.mp he))
  · rw [if_neg he]
    exact (sweepUntilFreed_ensures passes p).mono fun _ _ h =>
      .waits (by simpa using he) h

theorem drainWithin_ensures (passes waits : Nat) (p : Pool) :
    Ensures w (p.drainWithin w.environment passes waits) fun r events =>
      Drains passes waits p events r.1 r.2 := by
  induction waits generalizing p with
  | zero =>
      unfold drainWithin
      by_cases he : p.inFlight.isEmpty = true
      · rw [if_pos he]
        exact .pure (.done (List.isEmpty_iff.mp he))
      · rw [if_neg he]
        exact .pure (.tired (by simpa using he))
  | succ waits ih =>
      unfold drainWithin
      by_cases he : p.inFlight.isEmpty = true
      · rw [if_pos he]
        exact .pure (.done (List.isEmpty_iff.mp he))
      · rw [if_neg he]
        have hne : p.inFlight ≠ [] := by simpa using he
        refine (waitForSlot_ensures passes p).bind ?_
        rintro ⟨removed | fault | -, q⟩ xs (hidle | ⟨-, h⟩)
        · exact (ih q).mono fun _ ys hd => .waited hne h hd
        · exact absurd ‹_› hne
        · exact .pure (by simpa using .broken hne h)
        · exact .pure (by simpa using .unfinished hne h)

theorem drain_ensures (passes : Nat) (p : Pool) :
    Ensures w (p.drain w.environment passes) fun r events =>
      Drains passes p.inFlight.length p events r.1 r.2 :=
  drainWithin_ensures passes _ p

/-! ## Admission -/

/-- The attempt that a pool makes for a job on a new session. -/
def fresh (l : PoolLimits) (session : Session) (config : JobConfig) : Attempt :=
  { session, config, budget := l.budget }

@[simp] theorem fresh_session (l : PoolLimits) (session : Session) (config : JobConfig) :
    (fresh l session config).session = session := rfl

/-- The attempt for a job that was submitted once, with the answer to that. -/
def submittedOnce (l : PoolLimits) (session : Session) (config : JobConfig)
    (reply : Except Fault (Option Int)) : Attempt :=
  { session, config
    budget := { l.budget with used := 1, used_le := l.submissions_pos }
    jobId := reply.toOption.join }

/-- The first submission of an attempt is always granted. -/
theorem fresh_submits {l : PoolLimits} {session : Session} {config : JobConfig}
    {events : List Event} {answer : Except Fault Bool} {a : Attempt}
    (h : (fresh l session config).Submits events answer a) :
    ∃ reply more, events = .submitted session config reply :: more ∧
      (∀ e ∈ more, ∃ entry, e = .told (.log entry)) ∧ a.budget.used = 1 := by
  cases h with
  | refused hr => cases hr
  | spent _ hb =>
      have hspent : 0 = l.submissions := (RetryBudget.spend?_eq_none_iff _).mp hb
      exact absurd l.submissions_pos (hspent ▸ Nat.lt_irrefl 0)
  | answered _ _ hb => exact ⟨_, [], rfl, by simp, (RetryBudget.spend?_eq_some hb).2⟩
  | absorbed _ hb => exact ⟨_, _, rfl, by simp, (RetryBudget.spend?_eq_some hb).2⟩
  | failed _ hb => exact ⟨_, [], rfl, by simp, (RetryBudget.spend?_eq_some hb).2⟩

/-- What opening a session for a job and submitting the job does. -/
inductive Places (config : JobConfig) (p : Pool) : List Event → Except Fault Attempt → Pool → Prop
  where
  /-- The session cannot be opened. -/
  | refused {session : Session} {fault : Fault} :
    Places config p [.opened session (.error fault)] (.error fault) p
  /-- The session is open and the submission is granted. -/
  | admitted {session : Session} {events : List Event} {granted : Bool} {a : Attempt} :
    (fresh p.limits session config).Submits events (.ok granted) a →
    Places config p
      (.opened session (.ok ()) :: .told (.inFlight (p.inFlight.length + 1)) :: (events ++
        [.told (.log (.admitted config.path (p.inFlight.length + 1) p.limits.capacity))]))
      (.ok a) { p with inFlight := p.inFlight ++ [a] }
  /-- The session is open and the submission ends with a fault: the attempt is in flight. -/
  | failed {session : Session} {events : List Event} {fault : Fault} {a : Attempt} :
    (fresh p.limits session config).Submits events (.error fault) a →
    Places config p
      (.opened session (.ok ()) :: .told (.inFlight (p.inFlight.length + 1)) :: events)
      (.error fault) { p with inFlight := p.inFlight ++ [a] }

/-- A pool that is full has something in flight. -/
theorem inFlight_ne_nil_of_full {p : Pool} (h : p.isFull = true) : p.inFlight ≠ [] := by
  intro hnil
  unfold isFull at h
  rw [hnil, decide_eq_true_eq] at h
  exact absurd p.limits.capacity_pos (Nat.not_lt.mpr h)

/-- What admitting a job does. -/
inductive Admits (passes : Nat) (config : JobConfig) (p : Pool) :
    List Event → Outcome Attempt → Pool → Prop where
  /-- There is a slot. -/
  | atOnce {events : List Event} {answer : Except Fault Attempt} {q : Pool} :
    p.isFull = false → Places config p events answer q →
    Admits passes config p events (.ofExcept answer) q
  /-- There is a slot after a wait. -/
  | waited {xs ys : List Event} {removed : Nat} {answer : Except Fault Attempt} {q r : Pool} :
    p.isFull = true → WaitsForSlot passes p xs (.returned removed) q →
    Places config q ys answer r → Admits passes config p (xs ++ ys) (.ofExcept answer) r
  /-- The wait ends with a fault. -/
  | broken {xs : List Event} {fault : Fault} {q : Pool} :
    p.isFull = true → WaitsForSlot passes p xs (.raised fault) q →
    Admits passes config p xs (.raised fault) q
  /-- The wait does not end. -/
  | unfinished {xs : List Event} {q : Pool} :
    p.isFull = true → WaitsForSlot passes p xs .unfinished q →
    Admits passes config p xs .unfinished q

theorem place_ensures (config : JobConfig) (p : Pool) :
    Ensures w (p.place w.environment config) fun r events => Places config p events r.1 r.2 := by
  refine Ensures.connect.bind ?_
  rintro _ _ ⟨session, fault | -, rfl, rfl⟩
  · exact .pure .refused
  · refine (Ensures.tell _).bind ?_
    rintro - _ rfl
    refine (fresh p.limits session config).submit_ensures.bind ?_
    rintro ⟨fault | granted, a⟩ events h
    · exact .pure (by simpa using .failed h)
    · refine (Ensures.tell _).bind ?_
      rintro - _ rfl
      exact .pure (by simpa using .admitted h)

theorem admitJob_ensures (passes : Nat) (config : JobConfig) (p : Pool) :
    Ensures w (p.admitJob w.environment passes config) fun r events =>
      Admits passes config p events r.1 r.2 := by
  unfold admitJob
  by_cases hf : p.isFull = true
  · rw [if_pos hf]
    refine (waitForSlot_ensures passes p).bind ?_
    rintro ⟨removed | fault | -, q⟩ xs h
    · refine (place_ensures config q).bind ?_
      rintro ⟨answer, r⟩ ys hp
      exact .pure (by simpa using .waited hf h hp)
    · exact .pure (by simpa using .broken hf h)
    · exact .pure (by simpa using .unfinished hf h)
  · rw [if_neg hf]
    refine (place_ensures config p).bind ?_
    rintro ⟨answer, r⟩ ys hp
    exact .pure (by simpa using .atOnce (by simpa using hf) hp)

/-! ## The end of a pool -/

/-- What is told of an attempt that was released. -/
def releaseNotices (b : Attempt) : Except Fault Unit → List Event
  | .ok () => []
  | .error fault => [.told (.log (.releaseFailed b.config.path fault))]

/-- What releasing all attempts does.  Whatever becomes of one, the others follow. -/
inductive ReleasesAll : List Attempt → List Event → Option Fault → List Attempt → Prop where
  /-- Nobody is left. -/
  | nil : ReleasesAll [] [] none []
  /-- One attempt, then the others.  The first fault counts. -/
  | cons {a b : Attempt} {rest released : List Attempt} {xs ys : List Event}
      {answer : Except Fault Unit} {later : Option Fault} :
    a.Releases xs answer b → ReleasesAll rest ys later released →
    ReleasesAll (a :: rest) (xs ++ (releaseNotices b answer ++ ys)) ((fault? answer).or later)
      (b :: released)

/-- What closing a pool does. -/
inductive Closes (p : Pool) : List Event → Except Fault Unit → Pool → Prop where
  /-- The pool is emptied, and then its attempts are released. -/
  | mk {events : List Event} {answer : Except Fault Unit} {released : List Attempt} :
    ReleasesAll p.inFlight events (fault? answer) released →
    Closes p (.told (.inFlight 0) :: events) answer
      { p with inFlight := [], departed := p.departed ++ released.map (⟨.closed, ·⟩) }

theorem releaseAll_ensures (as : List Attempt) :
    Ensures w (releaseAll w.environment as) fun r events =>
      ReleasesAll as events r.1 r.2 := by
  induction as with
  | nil => exact .pure .nil
  | cons a rest ih =>
      refine a.release_ensures.bind ?_
      rintro ⟨fault | ⟨⟩, b⟩ xs h
      · refine (Ensures.tell _).bind ?_
        rintro - _ rfl
        refine ih.bind ?_
        rintro ⟨later, released⟩ ys hs
        exact .pure (by simpa [releaseNotices] using ReleasesAll.cons h hs)
      · refine ih.bind ?_
        rintro ⟨later, released⟩ ys hs
        exact .pure (by simpa [releaseNotices] using ReleasesAll.cons h hs)

theorem close_ensures (p : Pool) :
    Ensures w (p.close w.environment) fun r events => Closes p events r.1 r.2 := by
  refine (Ensures.tell _).bind ?_
  rintro - _ rfl
  refine (releaseAll_ensures p.inFlight).bind ?_
  rintro ⟨_ | fault, released⟩ events h
  · have hanswer : ReleasesAll p.inFlight events (fault? (.ok () : Except Fault Unit)) released :=
      h
    exact .pure (by simpa using Closes.mk hanswer)
  · have hanswer : ReleasesAll p.inFlight events (fault? (.error fault : Except Fault Unit))
        released := h
    exact .pure (by simpa using Closes.mk hanswer)

theorem abort_ensures (p : Pool) :
    Ensures w (p.abort w.environment) fun r events =>
      ∃ answer, Closes p events answer r.2 ∧ r.1 = fault? answer := by
  refine p.close_ensures.bind ?_
  rintro ⟨fault | ⟨⟩, q⟩ events h
  · exact .pure ⟨.error fault, by simpa using h, rfl⟩
  · exact .pure ⟨.ok (), by simpa using h, rfl⟩

/-! ## All that an owner can do -/

/-- What calling an attempt does.  Only releasing releases it. -/
inductive Calls (session : Session) (c : Attempt.Call) (p : Pool) : List Event → Pool → Prop where
  /-- The pool never had such an attempt. -/
  | unknown : p.find? session = none → Calls session c p [] p
  /-- The attempt is called, and put back. -/
  | called {a b : Attempt} {events : List Event} : p.find? session = some a →
    a.Lives events b → (∀ e ∈ events, e.Plain) → (c ≠ .release → b.released = a.released) →
    Calls session c p events (p.replace b)

/-- What one operation does. -/
inductive Performs (passes : Nat) (p : Pool) : Operation → List Event → Pool → Prop where
  /-- A job is admitted. -/
  | admitJob {config : JobConfig} {events : List Event} {outcome : Outcome Attempt} {q : Pool} :
    Admits passes config p events outcome q → Performs passes p (.admitJob config) events q
  /-- The owner waits for a slot. -/
  | waitForSlot {events : List Event} {outcome : Outcome Nat} {q : Pool} :
    WaitsForSlot passes p events outcome q → Performs passes p .waitForSlot events q
  /-- The owner waits until nothing is in flight. -/
  | drain {waits : Nat} {events : List Event} {outcome : Outcome Unit} {q : Pool} :
    Drains passes waits p events outcome q → Performs passes p .drain events q
  /-- The pool is closed. -/
  | close {events : List Event} {answer : Except Fault Unit} {q : Pool} :
    Closes p events answer q → Performs passes p .close events q
  /-- The scope of the pool is left. -/
  | leave (pending : Option Fault) {events : List Event} {answer : Except Fault Unit} {q : Pool} :
    Closes p events answer q → Performs passes p (.leave pending) events q
  /-- An attempt is called. -/
  | call {session : Session} {c : Attempt.Call} {events : List Event} {q : Pool} :
    Calls session c p events q → Performs passes p (.call session c) events q

/-- What operations do one after the other. -/
inductive PerformsAll (passes : Nat) : Pool → List Operation → List Event → Pool → Prop where
  /-- None is left. -/
  | nil (p : Pool) : PerformsAll passes p [] [] p
  /-- One operation, then the others. -/
  | cons {p q r : Pool} {o : Operation} {rest : List Operation} {xs ys : List Event} :
    Performs passes p o xs q → PerformsAll passes q rest ys r →
    PerformsAll passes p (o :: rest) (xs ++ ys) r

theorem call_ensures (session : Session) (c : Attempt.Call) (p : Pool) :
    Ensures w (p.call w.environment session c) fun r events => Calls session c p events r.2 := by
  unfold call
  match hf : p.find? session with
  | none => exact .pure (.unknown hf)
  | some a =>
      refine (a.perform_ensures c).bind ?_
      rintro ⟨answer, b⟩ events h
      exact .pure (by simpa using .called hf h.lives h.plain h.released_eq)

theorem perform_ensures (passes : Nat) (p : Pool) (o : Operation) :
    Ensures w (p.perform w.environment passes o) fun r events =>
      Performs passes p o events r.2 := by
  match o with
  | .admitJob config =>
      refine (admitJob_ensures passes config p).bind ?_
      rintro ⟨outcome, q⟩ events h
      exact .pure (by simpa using .admitJob h)
  | .waitForSlot =>
      refine (waitForSlot_ensures passes p).bind ?_
      rintro ⟨outcome, q⟩ events h
      exact .pure (by simpa using .waitForSlot h)
  | .drain =>
      refine (drain_ensures passes p).bind ?_
      rintro ⟨outcome, q⟩ events h
      exact .pure (by simpa using .drain h)
  | .close =>
      refine p.close_ensures.bind ?_
      rintro ⟨answer, q⟩ events h
      exact .pure (by simpa using .close h)
  | .leave none =>
      refine p.close_ensures.bind ?_
      rintro ⟨answer, q⟩ events h
      exact .pure (by simpa using .leave none h)
  | .leave (some pending) =>
      refine p.abort_ensures.bind ?_
      rintro ⟨closing, q⟩ events ⟨answer, h, -⟩
      exact .pure (by simpa using .leave (some pending) h)
  | .call session c =>
      refine (call_ensures session c p).bind ?_
      rintro ⟨_ | answer, q⟩ events h
      · exact .pure (by simpa using .call h)
      · exact .pure (by simpa using .call h)

theorem performAll_ensures (passes : Nat) (p : Pool) (ops : List Operation) :
    Ensures w (p.performAll w.environment passes ops) fun r events =>
      PerformsAll passes p ops events r.2 := by
  induction ops generalizing p with
  | nil => exact .pure (.nil p)
  | cons o rest ih =>
      refine (perform_ensures passes p o).bind ?_
      rintro ⟨outcome, q⟩ xs h
      refine (ih q).bind ?_
      rintro ⟨outcomes, r⟩ ys hs
      exact .pure (by simpa using .cons h hs)

end Pool

end LoadDispatch
