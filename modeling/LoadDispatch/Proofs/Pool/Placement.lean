import LoadDispatch.Proofs.Pool.Closing
import LoadDispatch.Proofs.Pool.Rhythm

/-!
# Admissions that fail

An admission needs room in the pool, then a session, and then an answer to the submission of its
job.  Each of the three may end with a fault, which the admission passes on, and what it leaves
tells which of them it was.

* Room is made by sweeps (`MakesRoom`).  A fault leaves the pool as these have left it, and nothing
  is in flight that was not before (`SweptTo`).
* A session that cannot be opened leaves nothing else behind.
* With the session open the attempt is in flight, before its job is submitted.  So whatever becomes
  of the submission, there is somebody to close the session: the attempt is the last one in flight
  (`submittedOnce`).  Without a number its job counts as failed, in the next sweep as ever.

Only a fault that is not the service's is a fault of the admission.
-/

namespace LoadDispatch

/-- Who has a partner in a list that is long enough is in a pair. -/
theorem exists_mem_zip {α β : Type} {as : List α} {bs : List β} (h : as.length = bs.length) {a : α}
    (ha : a ∈ as) : ∃ b, (a, b) ∈ as.zip bs := by
  rw [← List.map_fst_zip h.le] at ha
  obtain ⟨⟨_, b⟩, hmem, rfl⟩ := List.mem_map.mp ha
  exact ⟨b, hmem⟩

/-- What is asked of an attempt in a pass is its own question. -/
theorem AsksAll.asks_of_mem_zip {as : List Attempt} {events : List Event}
    {answers : List (Except Fault PolledStatus)} (h : AsksAll as events answers) {a : Attempt}
    {answer : Except Fault PolledStatus} (hmem : (a, answer) ∈ as.zip answers) :
    ∃ own, a.Asks own answer := by
  induction h with
  | nil => cases hmem
  | cons hask _ ih =>
      rcases List.mem_cons.mp hmem with heq | hmem
      · cases heq
        exact ⟨_, hask⟩
      · exact ih hmem

/-- An attempt without a number counts as failed, and nobody is asked. -/
theorem Attempt.Asks.failed_of_unnumbered {a : Attempt} {events : List Event}
    {answer : Except Fault PolledStatus} (h : a.Asks events answer) (hopen : a.released = false)
    (hnone : a.jobId = none) : answer = .ok (.known .failed) := by
  have hasks : a.asksFor = none := by simp [asksFor, hnone]
  cases h with
  | unasked _ hanswer => simpa [statusUnasked, hopen] using hanswer
  | answered _ hsome | absorbed hsome | failed hsome => cases hasks.symm.trans hsome

namespace Pool

variable {ω : Type} {w : World ω} {passes : Nat} {p q : Pool} {d d₁ : Desk ω}

/-! ## What becomes of an attempt in flight -/

/-- Closing closes every session in flight that is not closed yet. -/
theorem closed_mem_of_close {a : Attempt} (ha : a ∈ p.inFlight) (hopen : a.released = false)
    (d : Desk ω) : ∃ answer, .closed a.session answer ∈
      (p.close w.environment d).2.eventsSince d.journal.length := by
  let closed := p.close w.environment d
  have hcloses : p.Closes (closed.2.eventsSince d.journal.length) closed.1.1 closed.1.2 :=
    (p.close_ensures.of_run rfl).2
  obtain ⟨answers, hlen, hevents, -, -⟩ := hcloses.parts
  rw [hevents]
  have hdue : a ∈ p.due := List.mem_filter.mpr ⟨ha, by simp [hopen]⟩
  obtain ⟨answer, hmem⟩ := exists_mem_zip hlen.symm hdue
  exact ⟨answer, List.mem_cons_of_mem _ (List.mem_flatMap.mpr ⟨_, hmem, List.mem_cons_self⟩)⟩

/-- A pass takes an attempt without a number for failed. -/
theorem failed_mem_of_ask {a : Attempt} (ha : a ∈ p.inFlight) (hopen : a.released = false)
    (hnone : a.jobId = none) (d : Desk ω) :
    (a, .ok (.known .failed)) ∈ p.inFlight.zip (p.ask w.environment d).1 := by
  obtain ⟨polls, -, hasks⟩ := ask_asks w p d
  obtain ⟨answer, hmem⟩ := exists_mem_zip hasks.length_eq ha
  obtain ⟨own, hown⟩ := hasks.asks_of_mem_zip hmem
  rwa [hown.failed_of_unnumbered hopen hnone] at hmem

/-! ## Making room -/

/-- From a pool and a desk sweeps have led to others.  Nothing was done besides: jobs were submitted
on sessions in flight only, and nobody has come. -/
structure SweptTo (w : World ω) (p : Pool) (d : Desk ω) (q : Pool) (d₁ : Desk ω) : Prop where
  /-- The sweeps, with the pauses between them. -/
  series : ∃ xs : List (Pass w), Series p d xs q d₁
  /-- All calls are on sessions in flight. -/
  among : ∀ e ∈ d₁.eventsSince d.journal.length, e.Among (sessionsOf p.inFlight)
  /-- Nobody has come, and the order is kept. -/
  stayed : (sessionsOf q.inFlight).Sublist (sessionsOf p.inFlight)

namespace SweptTo

theorem refl (w : World ω) (p : Pool) (d : Desk ω) : SweptTo w p d p d := by
  refine ⟨⟨[], .nil p d⟩, ?_, .refl _⟩
  rw [(Records.refl w d).eventsSince]
  simp

theorem of_series {xs : List (Pass w)} {outcome : Outcome Nat} (hseries : Series p d xs q d₁)
    (h : p.waitForSlot w.environment passes d = ((outcome, q), d₁)) : SweptTo w p d q d₁ := by
  obtain ⟨hamong, hstayed⟩ := WaitsForSlot.among ((waitForSlot_ensures passes p).of_run h).2
  exact ⟨⟨xs, hseries⟩, hamong, hstayed⟩

theorem limits_eq (h : SweptTo w p d q d₁) : q.limits = p.limits := by
  obtain ⟨⟨_, hseries⟩, -, -⟩ := h
  exact hseries.limits_eq

end SweptTo

/-- Room for an attempt is made: by nothing if the pool is not full, else by a wait that returns. -/
inductive MakesRoom (w : World ω) (passes : Nat) (p : Pool) (d : Desk ω) :
    Pool → Desk ω → Prop where
  /-- There is room. -/
  | atOnce : p.isFull = false → MakesRoom w passes p d p d
  /-- Somebody leaves. -/
  | waited {removed : Nat} {q : Pool} {d₁ : Desk ω} : p.isFull = true →
    p.waitForSlot w.environment passes d = ((.returned removed, q), d₁) →
    MakesRoom w passes p d q d₁

theorem MakesRoom.swept (h : MakesRoom w passes p d q d₁) : SweptTo w p d q d₁ := by
  cases h with
  | atOnce => exact .refl w p d
  | waited _ hwait =>
      obtain ⟨-, _, _, hseries, -⟩ := series_of_waitForSlot_returned hwait
      exact .of_series hseries hwait

theorem MakesRoom.eq_of_not_full (h : MakesRoom w passes p d q d₁) (hfull : p.isFull = false) :
    q = p ∧ d₁ = d := by
  cases h with
  | atOnce => exact ⟨rfl, rfl⟩
  | waited hfull' => cases hfull.symm.trans hfull'

/-- With room made, the job is placed. -/
theorem MakesRoom.admitJob (h : MakesRoom w passes p d q d₁) (config : JobConfig) :
    let placed := q.place w.environment config d₁
    p.admitJob w.environment passes config d =
      ((.ofExcept placed.1.1, placed.1.2), placed.2) := by
  unfold Pool.admitJob
  cases h with
  | atOnce hfull =>
      rw [if_neg (by simp [hfull])]
      rfl
  | waited hfull hwait =>
      rw [if_pos hfull]
      exact run_bind hwait

/-! ## Placing the job -/

theorem accept_of_absorbed {reply : Except Fault (Option Int)}
    (h : ∀ fault, reply = .error fault → fault.isJobService = true) :
    Attempt.accept reply = .ok true := by
  cases reply with
  | ok => rfl
  | error fault => exact if_pos (h fault rfl)

/-- The first submission of an attempt is made, and its answer decides. -/
theorem submit_fresh (l : PoolLimits) (session : Session) (config : JobConfig) (d : Desk ω) :
    let reply := (w.submit session config d.world).1
    ((fresh l session config).submit w.environment d).1 =
      (Attempt.accept reply, submittedOnce l session config reply) := by
  intro reply
  have hspend : (fresh l session config).budget.spend? =
      some { l.budget with used := 1, used_le := l.submissions_pos } := dif_pos l.submissions_pos
  obtain ⟨d₁, hrun⟩ : ∃ d₁, w.environment.jobs.submit session config d = (reply, d₁) := ⟨_, rfl⟩
  unfold Attempt.submit
  rw [if_neg (by exact Bool.false_ne_true), hspend]
  refine (congrArg Prod.fst (run_bind hrun)).trans ?_
  match reply with
  | .ok jobId => rfl
  | .error fault =>
      unfold Attempt.accept
      by_cases hkind : fault.isJobService = true
      · simp only [if_pos hkind]
        rfl
      · simp only [if_neg hkind]
        rfl

/-- Nothing but the opening was tried. -/
theorem events_of_refused {fault : Fault}
    (h : (w.environment.jobs.connect d).1 = .error fault) :
    ∃ session, (w.environment.jobs.connect d).2.eventsSince d.journal.length =
      [.opened session (.error fault)] := by
  have hrefused : w.environment.jobs.connect d =
      (.error fault, (w.environment.jobs.connect d).2) := Prod.ext h rfl
  obtain ⟨-, session, opening, hevents, hanswer⟩ := Ensures.connect.of_run hrefused
  refine ⟨session, hevents.trans ?_⟩
  cases opening with
  | ok => cases hanswer
  | error => cases hanswer; rfl

theorem place_of_refused {fault : Fault}
    (h : (w.environment.jobs.connect d).1 = .error fault) (config : JobConfig) :
    p.place w.environment config d = ((.error fault, p), (w.environment.jobs.connect d).2) :=
  run_bind (Prod.ext h rfl)

/-- With a session open, the attempt is in flight whatever the answer to its submission is. -/
theorem place_of_opened {session : Session}
    (h : (w.environment.jobs.connect d).1 = .ok session) (config : JobConfig) :
    let reply := (w.submit session config (w.environment.jobs.connect d).2.world).1
    let a := submittedOnce p.limits session config reply
    (p.place w.environment config d).1 =
      ((Attempt.accept reply).map fun _ => a, { p with inFlight := p.inFlight ++ [a] }) := by
  intro reply a
  let new := fresh p.limits session config
  let opened := (w.environment.jobs.connect d).2
  let told := (({ p with inFlight := p.inFlight ++ [new] } : Pool).tellCount w.environment opened).2
  have hopened : w.environment.jobs.connect d = (.ok session, opened) := Prod.ext h rfl
  have htold : ({ p with inFlight := p.inFlight ++ [new] } : Pool).tellCount w.environment opened =
      ((), told) := rfl
  obtain ⟨d₁, hsubmit⟩ : ∃ d₁, new.submit w.environment told = ((Attempt.accept reply, a), d₁) :=
    ⟨_, Prod.ext (submit_fresh p.limits session config told) rfl⟩
  refine (congrArg Prod.fst (run_bind hopened)).trans ?_
  refine (congrArg Prod.fst (run_bind htold)).trans ?_
  refine (congrArg Prod.fst (run_bind hsubmit)).trans ?_
  cases Attempt.accept reply <;> rfl

/-- With room made and a session open, the admission ends as the submission does. -/
theorem MakesRoom.admitJob_of_opened (h : MakesRoom w passes p d q d₁) {session : Session}
    (hopened : (w.environment.jobs.connect d₁).1 = .ok session) (config : JobConfig) :
    let reply := (w.submit session config (w.environment.jobs.connect d₁).2.world).1
    let a := submittedOnce p.limits session config reply
    (p.admitJob w.environment passes config d).1 =
      (.ofExcept ((Attempt.accept reply).map fun _ => a),
        { q with inFlight := q.inFlight ++ [a] }) := by
  intro reply a
  have hplaced : (q.place w.environment config d₁).1 =
      ((Attempt.accept reply).map fun _ => submittedOnce q.limits session config reply,
        { q with inFlight := q.inFlight ++ [submittedOnce q.limits session config reply] }) :=
    place_of_opened hopened config
  have ha : submittedOnce q.limits session config reply = a := by
    rw [h.swept.limits_eq]
  rw [ha] at hplaced
  rw [h.admitJob config, hplaced]

/-! ## Admissions -/

/-- **A failed admission leaves what it has done.**  In any world, whatever the pool and the job
are:

* if the pool is full and the wait ends with a fault, so does the admission.  What is left is what
  the sweeps of the wait have left;
* if room is made but the session cannot be opened, the fault is passed on and what is left is what
  the sweeps have left, or the pool as it was if it was not full.  Opening the session is all that
  was tried;
* if the session is open, the attempt is the last one in flight, not released and submitted once,
  and everything else is what the sweeps have left.  A fault of the submission that is not the
  service's is passed on.  Then the attempt has no number: as long as it is in flight like that,
  closing closes its session, and a pass takes it for failed;
* else the attempt is the answer. -/
theorem failed_admissions_leave_what_they_did {ω : Type} (w : World ω) (passes : Nat)
    (config : JobConfig) (p : Pool) (d : Desk ω) :
    let admission := p.admitJob w.environment passes config d
    (∀ (q : Pool) (d₁ : Desk ω) (fault : Fault), p.isFull = true →
      p.waitForSlot w.environment passes d = ((.raised fault, q), d₁) →
      admission = ((.raised fault, q), d₁) ∧ SweptTo w p d q d₁) ∧
    (∀ (q : Pool) (d₁ : Desk ω), MakesRoom w passes p d q d₁ →
      let opened := w.environment.jobs.connect d₁
      SweptTo w p d q d₁ ∧ (p.isFull = false → q = p ∧ d₁ = d) ∧
      (∀ fault, opened.1 = .error fault →
        admission = ((.raised fault, q), opened.2) ∧
        ∃ session, opened.2.eventsSince d₁.journal.length = [.opened session (.error fault)]) ∧
      (∀ session, opened.1 = .ok session →
        let reply := (w.submit session config opened.2.world).1
        let a := submittedOnce p.limits session config reply
        let r : Pool := { q with inFlight := q.inFlight ++ [a] }
        a.released = false ∧ a.submissions = 1 ∧
        (∀ fault, reply = .error fault → fault.isJobService = false →
          admission.1 = (.raised fault, r) ∧ a.jobId = none ∧
          ∀ (later : Pool) (d₂ : Desk ω), a ∈ later.inFlight →
            (∃ answer, .closed session answer ∈
              (later.close w.environment d₂).2.eventsSince d₂.journal.length) ∧
            (a, .ok (.known .failed)) ∈ later.inFlight.zip (later.ask w.environment d₂).1) ∧
        ((∀ fault, reply = .error fault → fault.isJobService = true) →
          admission.1 = (.returned a, r)))) := by
  intro admission
  refine ⟨?_, ?_⟩
  · intro q d₁ fault hfull hwait
    obtain ⟨_, _, hseries, -⟩ :=
      series_of_waitForSlot_raised (inFlight_ne_nil_of_full hfull) hwait
    exact ⟨admitJob_of_wait_raised hfull hwait config, .of_series hseries hwait⟩
  · intro q d₁ hroom opened
    refine ⟨hroom.swept, hroom.eq_of_not_full, ?_, ?_⟩
    · intro fault hrefused
      refine ⟨?_, ?_⟩
      · show p.admitJob w.environment passes config d = _
        rw [hroom.admitJob config, place_of_refused hrefused]
        rfl
      · exact events_of_refused hrefused
    · intro session hopened reply a r
      have hadmission : admission.1 = (.ofExcept ((Attempt.accept reply).map fun _ => a), r) :=
        hroom.admitJob_of_opened hopened config
      refine ⟨rfl, rfl, ?_, ?_⟩
      · intro fault hreply hkind
        have hnone : a.jobId = none := congrArg (fun reply => reply.toOption.join) hreply
        refine ⟨?_, hnone, fun later d₂ ha => ?_⟩
        · rw [hadmission, hreply, Attempt.accept, if_neg (by simp [hkind])]
          rfl
        · exact ⟨closed_mem_of_close ha rfl d₂, failed_mem_of_ask ha rfl hnone d₂⟩
      · intro hservice
        rw [hadmission, accept_of_absorbed hservice]
        rfl

/-- A job service whose answer to a submission is lost. -/
def lostAnswer : Rehearsal.Services where
  jobs := { submissions := [("/a", [.fault (.outside .runtime "lost")])] }

/-- With `lostAnswer` the admission ends with the fault; its attempt is in flight, and closing the
pool closes its session. -/
theorem failed_admissions_leave_what_they_did_at_lost_answer :
    let admission := ({ limits := slowJobPool.limits } : Pool).admitJob
      Rehearsal.Services.world.environment 1 { path := "/a" } { world := lostAnswer }
    ∃ (a : Attempt) (r : Pool), admission.1 = (.raised (.outside .runtime "lost"), r) ∧
      r.inFlight = [a] ∧ a.submissions = 1 ∧ a.jobId = none ∧
      ∃ answer, .closed a.session answer ∈
        (r.close Rehearsal.Services.world.environment admission.2).2.eventsSince
          admission.2.journal.length := by
  intro admission
  obtain ⟨-, hroom⟩ := failed_admissions_leave_what_they_did Rehearsal.Services.world 1
    { path := "/a" } { limits := slowJobPool.limits } { world := lostAnswer }
  obtain ⟨-, -, -, hopened⟩ := hroom _ _ (.atOnce rfl)
  obtain ⟨-, honce, hfailed, -⟩ := hopened ⟨1⟩ rfl
  obtain ⟨hraised, hnone, hlater⟩ := hfailed _ rfl rfl
  refine ⟨_, _, hraised, rfl, honce, hnone, ?_⟩
  exact (hlater _ admission.2 List.mem_cons_self).1

end Pool

end LoadDispatch
