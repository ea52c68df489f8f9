import LoadDispatch.Http.JobClient
import LoadDispatch.Proofs.Pool.Capacity
import LoadDispatch.Proofs.Pool.Lifetime
import LoadDispatch.Rehearsal.Services

/-!
# Sweeps that are refused

A sweep asks everyone in flight before it settles anyone.  As long as it asks, nothing has been
changed, so a check that fails can stop it without a trace: the pool is what it was, no job was
submitted and no session closed.  What the other checks have answered is thrown away with it, also
if it was a final status, and is there to be asked for again.

`Pool.ask` is the first stage of a sweep by itself.  What a fault among its answers does to a sweep
is the same in every environment (`Pool.sweep_of_failed_check`), since it is read off the answers
before anything else is done.  A wait is made of sweeps that free nobody (`IdlePasses`) and a drain
of waits that return (`FinishedWaits`), so both pass the fault on with the pool that the last
finished sweep has left (`RefusedWait`).

Over HTTP a status is one of the five or a fault, so there a sweep either settles nobody or has a
status for everyone that it has a rule for.
-/

namespace LoadDispatch

/-- Something is done to a session, to a job or to the clock.  Asking and telling are not. -/
def Event.isDeed : Event → Bool
  | .opened .. | .submitted .. | .closed .. | .paused _ => true
  | _ => false

theorem Attempt.Asks.not_isDeed {a : Attempt} {events : List Event}
    {answer : Except Fault PolledStatus} (h : a.Asks events answer) :
    ∀ e ∈ events, e.isDeed = false := by
  cases h <;> simp [Event.isDeed]

theorem AsksAll.not_isDeed {as : List Attempt} {events : List Event}
    {answers : List (Except Fault PolledStatus)} (h : AsksAll as events answers) :
    ∀ e ∈ events, e.isDeed = false := by
  induction h with
  | nil => simp
  | cons hask _ ih => exact List.forall_mem_append.mpr ⟨hask.not_isDeed, ih⟩

/-- Collecting ends with the first fault. -/
theorem collect_eq_error_iff {α : Type} {answers : List (Except Fault α)} {fault : Fault} :
    collect answers = .error fault ↔ answers.findSome? fault? = some fault := by
  induction answers with
  | nil => simp [collect]
  | cons answer rest ih =>
      cases answer with
      | error fault' =>
          rw [List.findSome?_cons, fault?_error, collect, Except.error.injEq, Option.some.injEq]
      | ok a =>
          rw [List.findSome?_cons, fault?_ok, ← ih, collect]
          cases collect rest <;> simp [Except.map]

namespace Pool

/-! ## The first stage of a sweep -/

/-- The first stage of a sweep: everyone in flight is asked. -/
def ask {m : Type → Type} [Monad m] (env : Environment m) (p : Pool) :
    m (List (Except Fault PolledStatus)) := do
  env.tell (.pass (min p.limits.statusChecks p.pollable))
  askAll env p.inFlight

section Stateful

variable {σ : Type} {env : Environment (StateM σ)} {p : Pool} {s : σ} {fault : Fault}

/-- A sweep asks, and goes on with the answers. -/
theorem sweep_eq (env : Environment (StateM σ)) (p : Pool) (s : σ) :
    p.sweep env s = p.finishSweep env (p.ask env s).1 (p.ask env s).2 := rfl

/-- **A failed check stops a sweep before it has done anything.** -/
theorem sweep_of_failed_check (h : (p.ask env s).1.findSome? fault? = some fault) :
    p.sweep env s = ((.error fault, p), (p.ask env s).2) := by
  rw [sweep_eq, finishSweep, collect_eq_error_iff.mpr h]
  rfl

end Stateful

section Waiting

variable {ω : Type} {w : World ω} {passes n : Nat} {p q r : Pool} {d d₁ d₂ d₃ : Desk ω}
  {fault : Fault}

theorem ask_ensures (p : Pool) :
    Ensures w (p.ask w.environment) fun answers events => ∃ polls,
      events = .told (.pass (min p.limits.statusChecks p.pollable)) :: polls ∧
        AsksAll p.inFlight polls answers := by
  refine (Ensures.tell _).bind ?_
  rintro - _ rfl
  refine (askAll_ensures p.inFlight).mono fun answers polls h => ?_
  exact ⟨polls, rfl, h⟩

/-- What a pass has asked, and what it was told. -/
theorem ask_asks (w : World ω) (p : Pool) (d : Desk ω) :
    ∃ polls, (p.ask w.environment d).2.eventsSince d.journal.length =
        .told (.pass (min p.limits.statusChecks p.pollable)) :: polls ∧
      AsksAll p.inFlight polls (p.ask w.environment d).1 :=
  ((ask_ensures p).of_run rfl).2

/-! ### Waits, drains and admissions, a call at a time -/

theorem waitForSlot_of_ne_nil (hne : p.inFlight ≠ []) :
    p.waitForSlot w.environment passes d = p.sweepUntilFreed w.environment passes d :=
  congrFun (if_neg (by simpa using hne)) d

/-- Every wait that returns has freed somebody, so there are waits enough for a drain. -/
theorem length_lt_of_waitForSlot {removed : Nat}
    (h : p.waitForSlot w.environment passes d = ((.returned removed, q), d₁)) :
    q.inFlight.length < p.inFlight.length :=
  WaitsForSlot.length_lt ((waitForSlot_ensures passes p).of_run h).2

theorem ne_nil_of_waitForSlot_returned {removed : Nat}
    (h : p.waitForSlot w.environment passes d = ((.returned removed, q), d₁)) :
    p.inFlight ≠ [] :=
  List.ne_nil_of_length_pos (Nat.zero_lt_of_lt (length_lt_of_waitForSlot h))

theorem drainWithin_of_ne_nil (hne : p.inFlight ≠ []) (waits : Nat) :
    p.drainWithin w.environment passes (waits + 1) d =
      (p.waitForSlot w.environment passes >>= fun
        | (.returned _, p) => drainWithin w.environment passes waits p
        | (.raised fault, p) => pure (.raised fault, p)
        | (.unfinished, p) => pure (.unfinished, p)) d :=
  congrFun (if_neg (by simpa using hne)) d

theorem admitJob_of_wait_raised (hfull : p.isFull = true)
    (h : p.waitForSlot w.environment passes d = ((.raised fault, q), d₁)) (config : JobConfig) :
    p.admitJob w.environment passes config d = ((.raised fault, q), d₁) := by
  rw [Pool.admitJob, if_pos hfull]
  exact run_bind h

/-! ### Failed checks on the way -/

/-- A number of passes that free nobody, with the pause behind each. -/
inductive IdlePasses (w : World ω) : Nat → Pool → Desk ω → Pool → Desk ω → Prop where
  /-- No pass. -/
  | none (p : Pool) (d : Desk ω) : IdlePasses w 0 p d p d
  /-- A pass and a pause, and then others. -/
  | oneMore {n : Nat} {p q r : Pool} {d d₁ d₂ : Desk ω} :
    p.sweep w.environment d = ((.ok 0, q), d₁) →
    IdlePasses w n q (w.environment.pause q.limits.pollInterval d₁).2 r d₂ →
    IdlePasses w (n + 1) p d r d₂

/-- A number of waits that return, one after the other. -/
inductive FinishedWaits (w : World ω) (passes : Nat) : Pool → Desk ω → Pool → Desk ω → Prop where
  /-- No wait. -/
  | none (p : Pool) (d : Desk ω) : FinishedWaits w passes p d p d
  /-- A wait, and then others. -/
  | oneMore {p q r : Pool} {d d₁ d₂ : Desk ω} {removed : Nat} :
    p.waitForSlot w.environment passes d = ((.returned removed, q), d₁) →
    FinishedWaits w passes q d₁ r d₂ → FinishedWaits w passes p d r d₂

/-- A wait ends with the first sweep that ends with a fault. -/
theorem IdlePasses.sweepUntilFreed (h : IdlePasses w n p d q d₁) (hn : n < passes)
    (hsweep : q.sweep w.environment d₁ = ((.error fault, r), d₂)) :
    p.sweepUntilFreed w.environment passes d = ((.raised fault, r), d₂) := by
  induction h generalizing passes with
  | none =>
      obtain ⟨passes, rfl⟩ := Nat.exists_eq_add_one_of_ne_zero (Nat.ne_of_gt hn)
      exact run_bind hsweep
  | oneMore hidle _ ih =>
      obtain ⟨passes, rfl⟩ := Nat.exists_eq_add_one_of_ne_zero (Nat.ne_of_gt (Nat.zero_lt_of_lt hn))
      exact (run_bind hidle).trans (ih (Nat.lt_of_succ_lt_succ hn) hsweep)

/-- A wait comes upon a failed check: so many passes free nobody, and in the next one the check is
the first that fails.  What is left is the pool of the last finished pass. -/
inductive RefusedWait (w : World ω) (passes : Nat) (p : Pool) (d : Desk ω) :
    Fault → Pool → Desk ω → Prop where
  /-- The failed check ends the pass that it belongs to. -/
  | mk {n : Nat} {q : Pool} {d₁ : Desk ω} {fault : Fault} : p.inFlight ≠ [] →
    IdlePasses w n p d q d₁ → n < passes →
    (q.ask w.environment d₁).1.findSome? fault? = some fault →
    RefusedWait w passes p d fault q (q.ask w.environment d₁).2

theorem RefusedWait.waitForSlot (h : RefusedWait w passes p d fault q d₁) :
    p.waitForSlot w.environment passes d = ((.raised fault, q), d₁) := by
  obtain ⟨hne, hidle, hn, hfirst⟩ := h
  rw [waitForSlot_of_ne_nil hne]
  exact hidle.sweepUntilFreed hn (sweep_of_failed_check hfirst)

theorem RefusedWait.inFlight_ne_nil (h : RefusedWait w passes p d fault q d₁) :
    p.inFlight ≠ [] := by
  obtain ⟨hne, -⟩ := h
  exact hne

theorem FinishedWaits.drainWithin (h : FinishedWaits w passes p d q d₁) {waits : Nat}
    (hwaits : p.inFlight.length ≤ waits) (hwait : RefusedWait w passes q d₁ fault r d₂) :
    p.drainWithin w.environment passes waits d = ((.raised fault, r), d₂) := by
  induction h generalizing waits with
  | none p =>
      have hne : p.inFlight ≠ [] := hwait.inFlight_ne_nil
      have hpos : 0 < p.inFlight.length := List.length_pos_iff.mpr hne
      obtain ⟨waits, rfl⟩ := Nat.exists_eq_add_one_of_ne_zero (Nat.ne_of_gt (hpos.trans_le hwaits))
      rw [drainWithin_of_ne_nil hne]
      exact run_bind hwait.waitForSlot
  | @oneMore p q' _ _ _ _ _ hfirst _ ih =>
      have hless : q'.inFlight.length < p.inFlight.length := length_lt_of_waitForSlot hfirst
      obtain ⟨waits, rfl⟩ := Nat.exists_eq_add_one_of_ne_zero
        (Nat.ne_of_gt ((Nat.zero_lt_of_lt hless).trans_le hwaits))
      rw [drainWithin_of_ne_nil (ne_nil_of_waitForSlot_returned hfirst)]
      exact (run_bind hfirst).trans (ih (by omega) hwait)

theorem RefusedWait.admitJob (h : RefusedWait w passes p d fault q d₁) (config : JobConfig)
    (hfull : p.isFull = true) :
    p.admitJob w.environment passes config d = ((.raised fault, q), d₁) :=
  admitJob_of_wait_raised hfull h.waitForSlot config

/-- Waiting asks for no session. -/
theorem askedIn_of_waitForSlot {outcome : Outcome Nat}
    (h : p.waitForSlot w.environment passes d = ((outcome, q), d₁)) :
    askedIn (d₁.eventsSince d.journal.length) = [] := by
  have hamong := (WaitsForSlot.among ((waitForSlot_ensures passes p).of_run h).2).1
  exact List.filterMap_eq_nil_iff.mpr fun e he => (hamong e he).asked?_eq_none

end Waiting

/-! ## Services whose statuses are all known -/

section Known

variable {σ : Type} {env : Environment (StateM σ)}

/-- Queries are answered by one of the five statuses or a fault. -/
def KnowsStatuses (env : Environment (StateM σ)) : Prop :=
  ∀ session job s, ∃ answer : Except Fault JobStatus,
    (env.jobs.poll session job s).1 = answer.map .known

/-- A check of an attempt that the service is asked about has the answer that it counts as. -/
theorem status_eq_absorb {a : Attempt} {job : Int} (h : a.asksFor = some job) (s : σ) :
    (a.status env s).1 = Attempt.absorb (env.jobs.poll a.session job s).1 := by
  obtain ⟨reply, s₁, hreply⟩ : ∃ reply s₁, env.jobs.poll a.session job s = (reply, s₁) :=
    ⟨_, _, rfl⟩
  rw [hreply, Attempt.status, h]
  refine (congrArg Prod.fst (run_bind hreply)).trans ?_
  cases reply with
  | ok status => rfl
  | error fault =>
      dsimp only
      split <;> rfl

/-- Then the same is true of checks. -/
theorem KnowsStatuses.status (h : KnowsStatuses env) (a : Attempt) (s : σ) :
    ∃ answer : Except Fault JobStatus, (a.status env s).1 = answer.map .known := by
  match hasks : a.asksFor with
  | none =>
      rw [Attempt.status, hasks]
      show ∃ answer : Except Fault JobStatus, a.statusUnasked = answer.map .known
      unfold Attempt.statusUnasked
      split
      · exact ⟨.error _, rfl⟩
      · exact ⟨.ok .failed, rfl⟩
  | some job =>
      rw [status_eq_absorb hasks]
      obtain ⟨fault | status, hanswer⟩ := h a.session job s
      · rw [hanswer]
        cases hkind : fault.isJobService with
        | true => exact ⟨.ok .failed, by simp [Attempt.absorb, Except.map, hkind]⟩
        | false => exact ⟨.error fault, by simp [Attempt.absorb, Except.map, hkind]⟩
      · exact ⟨.ok status, by rw [hanswer]; rfl⟩

theorem KnowsStatuses.askAll (h : KnowsStatuses env) (as : List Attempt) (s : σ) :
    ∃ answers : List (Except Fault JobStatus),
      (LoadDispatch.askAll env as s).1 = answers.map (·.map .known) := by
  induction as generalizing s with
  | nil => exact ⟨[], rfl⟩
  | cons a rest ih =>
      obtain ⟨answer, hanswer⟩ := h.status a s
      obtain ⟨answers, hanswers⟩ := ih (a.status env s).2
      refine ⟨answer :: answers, ?_⟩
      rw [List.map_cons, ← hanswer, ← hanswers]
      rfl

/-- Then a sweep has a known status for everyone, or ends with a failed check. -/
theorem KnowsStatuses.ask (h : KnowsStatuses env) (p : Pool) (s : σ) :
    (∃ fault, (p.ask env s).1.findSome? fault? = some fault) ∨
      ∃ statuses : List JobStatus,
        (p.ask env s).1 = statuses.map fun status => .ok (.known status) := by
  obtain ⟨answers, hask⟩ : ∃ answers : List (Except Fault JobStatus),
      (p.ask env s).1 = answers.map (·.map .known) :=
    h.askAll p.inFlight (env.tell (.pass (min p.limits.statusChecks p.pollable)) s).2
  rw [hask]
  match hcollected : collect answers with
  | .error fault =>
      refine .inl ⟨fault, ?_⟩
      rw [List.findSome?_map, ← collect_eq_error_iff.mp hcollected]
      congr 1
      funext answer
      cases answer <;> rfl
  | .ok statuses =>
      refine .inr ⟨statuses, ?_⟩
      rw [eq_map_of_collect hcollected, List.map_map]
      rfl

/-- A status that came over HTTP is one of the five. -/
theorem knowsStatuses_of_http {transport : Http.Transport (StateM σ)} {address : String}
    {timeout : Option Float} (h : env.jobs = Http.jobService transport address timeout) :
    KnowsStatuses env := by
  intro session job s
  rw [h, Http.jobService]
  match Http.endpoint address .jobService "Job service" with
  | .error fault => exact ⟨.error fault, rfl⟩
  | .ok base => exact ⟨_, rfl⟩

end Known

/-! ## Failed checks -/

/-- **Failed checks change nothing.**  In any world and whatever the pool is:

* the pass asks everyone in flight, in order, and while it asks nothing is done.  If some check
  fails, the sweep ends right there, with the fault of the first attempt whose check has failed and
  with the pool as it was;
* a wait that comes upon a failed check passes its fault on, with the pool that the last finished
  sweep has left.  So does a drain whose waits before have returned, and so does an admission to a
  full pool, which has not asked for a session then;
* over HTTP every status is known.  There a sweep either ends with a failed check and the pool as it
  was, or has one of the five statuses for everyone. -/
theorem failed_checks_change_nothing {ω : Type} (w : World ω) (passes : Nat) :
    (∀ (p : Pool) (d : Desk ω),
      let asked := p.ask w.environment d
      let asking := asked.2.eventsSince d.journal.length
      (∃ polls, asking = .told (.pass (min p.limits.statusChecks p.pollable)) :: polls ∧
        AsksAll p.inFlight polls asked.1) ∧
      (∀ e ∈ asking, e.isDeed = false) ∧
      ((∃ fault, .error fault ∈ asked.1) → ∃ fault, asked.1.findSome? fault? = some fault ∧
        p.sweep w.environment d = ((.error fault, p), asked.2))) ∧
    (∀ (p q : Pool) (d d₁ : Desk ω) (fault : Fault), RefusedWait w passes p d fault q d₁ →
      p.waitForSlot w.environment passes d = ((.raised fault, q), d₁) ∧
      (∀ p₀ d₀, FinishedWaits w passes p₀ d₀ p d →
        p₀.drain w.environment passes d₀ = ((.raised fault, q), d₁)) ∧
      (p.isFull = true → ∀ config,
        p.admitJob w.environment passes config d = ((.raised fault, q), d₁) ∧
        askedIn (d₁.eventsSince d.journal.length) = [])) ∧
    (∀ {σ : Type} (transport : Http.Transport (StateM σ)) (address : String)
        (timeout : Option Float) (env : Environment (StateM σ)) (p : Pool) (s : σ),
      env.jobs = Http.jobService transport address timeout →
      let asked := p.ask env s
      (∃ fault, asked.1.findSome? fault? = some fault ∧
        p.sweep env s = ((.error fault, p), asked.2)) ∨
      ∃ statuses : List JobStatus,
        asked.1 = statuses.map fun status => .ok (.known status)) := by
  refine ⟨?_, ?_, ?_⟩
  · intro p d asked asking
    refine ⟨ask_asks w p d, ?_, ?_⟩
    · obtain ⟨polls, heq, hpolls⟩ := ask_asks w p d
      intro e (he : e ∈ (p.ask w.environment d).2.eventsSince d.journal.length)
      rw [heq] at he
      obtain rfl | he := List.mem_cons.mp he
      · rfl
      · exact hpolls.not_isDeed e he
    · rintro ⟨fault, hfault⟩
      match hfirst : asked.1.findSome? fault? with
      | some first => exact ⟨first, rfl, sweep_of_failed_check hfirst⟩
      | none => exact absurd (List.findSome?_eq_none_iff.mp hfirst _ hfault) (by simp)
  · intro p q d d₁ fault h
    refine ⟨h.waitForSlot, fun p₀ d₀ hwaits => hwaits.drainWithin le_rfl h, ?_⟩
    exact fun hfull config => ⟨h.admitJob config hfull, askedIn_of_waitForSlot h.waitForSlot⟩
  · intro σ transport address timeout env p s hjobs asked
    refine ((knowsStatuses_of_http hjobs).ask p s).imp_left ?_
    rintro ⟨fault, hfirst⟩
    exact ⟨fault, hfirst, sweep_of_failed_check hfirst⟩

/-- The job service does not answer for one of two jobs, and the other one is done. -/
def halfAnswered : Rehearsal.Services where
  jobs := {
    polls := [("/a", [.status "COMPLETED"]), ("/b", [.fault (.outside .runtime "down")])]
    owners := [(1, "/a"), (2, "/b")] }

/-- The jobs of `halfAnswered`, each submitted once, in a pool that is full with them. -/
def halfAnsweredPool : Pool where
  limits := {
    capacity := 2
    submissions := 1
    pollInterval := PoolLimits.clampInterval 0.0
    statusChecks := 1
    capacity_pos := Nat.two_pos
    submissions_pos := Nat.one_pos
    statusChecks_pos := Nat.one_pos }
  inFlight := [
    { session := ⟨1⟩, config := { path := "/a" }, jobId := some 1,
      budget := { limit := 1, used := 1, limit_pos := Nat.one_pos } },
    { session := ⟨2⟩, config := { path := "/b" }, jobId := some 2,
      budget := { limit := 1, used := 1, limit_pos := Nat.one_pos } }]

/-- In `halfAnswered` the job that is done is not taken out, and nobody is admitted. -/
theorem failed_checks_change_nothing_at_half_answered :
    ∃ d,
      halfAnsweredPool.sweep Rehearsal.Services.world.environment { world := halfAnswered } =
        ((.error (.outside .runtime "down"), halfAnsweredPool), d) ∧
      halfAnsweredPool.isFull = true ∧
      halfAnsweredPool.admitJob Rehearsal.Services.world.environment 5 { path := "/c" }
          { world := halfAnswered } =
        ((.raised (.outside .runtime "down"), halfAnsweredPool), d) := by
  have hfirst : (halfAnsweredPool.ask Rehearsal.Services.world.environment
      { world := halfAnswered }).1.findSome? fault? = some (.outside .runtime "down") := by
    decide +kernel
  have hfailed : ∃ fault, .error fault ∈ (halfAnsweredPool.ask
      Rehearsal.Services.world.environment { world := halfAnswered }).1 := by
    obtain ⟨answer | fault, hmem, hsome⟩ := List.exists_of_findSome?_eq_some hfirst
    · exact ⟨_, hmem⟩
    · cases hsome
  obtain ⟨hsweep, hwait, -⟩ := failed_checks_change_nothing Rehearsal.Services.world 5
  obtain ⟨fault, hfault, hrefused⟩ :=
    (hsweep halfAnsweredPool { world := halfAnswered }).2.2 hfailed
  obtain rfl : fault = .outside .runtime "down" := Option.some.inj (hfault.symm.trans hfirst)
  have hfull : halfAnsweredPool.isFull = true := rfl
  have hrefusedWait : RefusedWait Rehearsal.Services.world 5 halfAnsweredPool
      { world := halfAnswered } (.outside .runtime "down") halfAnsweredPool
      (halfAnsweredPool.ask Rehearsal.Services.world.environment { world := halfAnswered }).2 :=
    .mk (List.cons_ne_nil _ _) (.none _ _) (Nat.succ_pos 4) hfirst
  obtain ⟨-, -, hadmission⟩ := hwait _ _ _ _ _ hrefusedWait
  exact ⟨_, hrefused, hfull, (hadmission hfull _).1⟩

end Pool

end LoadDispatch
