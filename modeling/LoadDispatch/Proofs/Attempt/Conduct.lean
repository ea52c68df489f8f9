import LoadDispatch.Proofs.Session
import LoadDispatch.Pool.Sweep

/-!
# What an attempt does

The operations of an attempt, as relations between the attempt before, the events, the answer and
the attempt after.  A relation leaves the answers of the world open and says everything else, so
whatever holds of it holds in every world.

* `Attempt.Submits`, `Attempt.Asks`, `Attempt.Releases` are the three operations; `Attempt.Settles`
  is what settling a status does.  Each has a lemma `…_ensures` that ties it to the operation.
* `Attempt.Step` is a single call on the session of an attempt, and `Attempt.Course` any number of
  them.  An operation is a course (`Attempt.Lives`), and a course is all that other attempts have
  to know of it.

The two facts about a course that everything else rests on are that it ends where the attempt is
released (`Course.of_released`) and that what was called is told by the attempt afterwards
(`Course.talk_then_close`, `Course.count_submissions`).
-/

namespace LoadDispatch

variable {ω : Type} {w : World ω}

/-- The fault of an answer, if it is one. -/
def fault? {α : Type} : Except Fault α → Option Fault
  | .ok _ => none
  | .error fault => some fault

@[simp] theorem fault?_ok {α : Type} (a : α) : fault? (.ok a) = none := rfl

@[simp] theorem fault?_error {α : Type} (fault : Fault) :
    fault? (.error fault : Except Fault α) = some fault := rfl

/-- The sessions of attempts, in order. -/
def sessionsOf (as : List Attempt) : List Session :=
  as.map (·.session)

section SessionsOf

variable {a : Attempt} {as bs : List Attempt}

@[simp] theorem sessionsOf_nil : sessionsOf [] = [] := rfl

@[simp] theorem sessionsOf_cons : sessionsOf (a :: as) = a.session :: sessionsOf as := rfl

@[simp] theorem sessionsOf_append : sessionsOf (as ++ bs) = sessionsOf as ++ sessionsOf bs :=
  List.map_append

theorem mem_sessionsOf {s : Session} : s ∈ sessionsOf as ↔ ∃ a ∈ as, a.session = s :=
  List.mem_map

theorem session_mem_sessionsOf (h : a ∈ as) : a.session ∈ sessionsOf as :=
  List.mem_map_of_mem h

/-- One more session is outside of the frame of an attempt among others. -/
theorem session_not_mem_singleton {s : Session} (hs : s ∉ sessionsOf as) (h : a ∈ as) :
    a.session ∉ [s] := by
  rw [List.mem_singleton]
  rintro rfl
  exact hs (session_mem_sessionsOf h)

end SessionsOf

namespace Attempt

/-! ## One call after the other -/

/-- One call on the session of an attempt.  An attempt that is released makes none. -/
inductive Step : Attempt → List Event → Attempt → Prop where
  /-- A submission is granted, and leaves the attempt with the number in the answer, if any. -/
  | submit {a : Attempt} {budget : RetryBudget} (answer : Except Fault (Option Int)) :
    a.released = false → a.budget.spend? = some budget →
    Step a [.submitted a.session a.config answer]
      { a with budget, jobId := answer.toOption.join }
  /-- The service is asked about the present number. -/
  | poll {a : Attempt} {job : Int} (answer : Except Fault PolledStatus) :
    a.released = false → a.jobId = some job →
    Step a [.polled a.session job answer] a
  /-- The session is closed, also if that fails. -/
  | close {a : Attempt} (answer : Except Fault Unit) :
    a.released = false →
    Step a [.closed a.session answer] { a with released := true }

/-- Any number of calls on the session of an attempt. -/
abbrev Course : Attempt → List Event → Attempt → Prop :=
  Steps Step

section Course

variable {a b : Attempt} {calls : List Event}

theorem Step.frame (h : Step a calls b) :
    b.session = a.session ∧ b.config = a.config ∧ b.budget.limit = a.budget.limit := by
  cases h with
  | submit _ _ hspend => exact ⟨rfl, rfl, (RetryBudget.spend?_eq_some hspend).1⟩
  | poll => exact ⟨rfl, rfl, rfl⟩
  | close => exact ⟨rfl, rfl, rfl⟩

/-- A course never changes the session, the job or the limit of its budget. -/
theorem Course.frame (h : Course a calls b) :
    b.session = a.session ∧ b.config = a.config ∧ b.budget.limit = a.budget.limit := by
  induction h with
  | refl => exact ⟨rfl, rfl, rfl⟩
  | tail _ last ih =>
      obtain ⟨hs, hc, hl⟩ := last.frame
      exact ⟨hs.trans ih.1, hc.trans ih.2.1, hl.trans ih.2.2⟩

theorem Course.session_eq (h : Course a calls b) : b.session = a.session := h.frame.1

/-- Only the job of the attempt is submitted. -/
theorem Course.config_of_submitted (h : Course a calls b) {s : Session} {config : JobConfig}
    {answer : Except Fault (Option Int)} (he : .submitted s config answer ∈ calls) :
    config = a.config := by
  induction h with
  | refl => cases he
  | tail run last ih =>
      rcases List.mem_append.mp he with he | he
      · exact ih he
      · rw [← (Course.frame run).2.1]
        cases last with
        | submit =>
            cases List.mem_singleton.mp he
            rfl
        | poll | close => cases List.mem_singleton.mp he

/-- Once an attempt is released there are no more calls. -/
theorem Course.of_released (ha : a.released = true) (h : Course a calls b) :
    calls = [] ∧ b = a := by
  induction h with
  | refl => exact ⟨rfl, rfl⟩
  | tail _ last ih =>
      obtain ⟨-, rfl⟩ := ih
      cases last with
      | submit _ h => rw [h] at ha; cases ha
      | poll _ h => rw [h] at ha; cases ha
      | close _ h => rw [h] at ha; cases ha

/-- **Talk, then at most one closing.**  The calls of an attempt that was not released to begin
with are submissions and status queries only, followed by one closing exactly if it is released
in the end. -/
theorem Course.talk_then_close (ha : a.released = false) (h : Course a calls b) :
    ∃ talk last, calls = talk ++ last ∧ (∀ e ∈ talk, e.isClosing = false) ∧
      ((b.released = false ∧ last = []) ∨
        (b.released = true ∧ ∃ answer, last = [.closed a.session answer])) := by
  induction h with
  | refl => exact ⟨[], [], rfl, by simp, .inl ⟨ha, rfl⟩⟩
  | @tail c b xs ys run step ih =>
      obtain ⟨talk, last, rfl, htalk, ⟨hc, rfl⟩ | ⟨hc, -⟩⟩ := ih
      · have hs : c.session = a.session := Course.session_eq run
        rw [List.append_nil]
        cases step with
        | submit answer =>
            refine ⟨talk ++ _, [], (List.append_nil _).symm, ?_, .inl ⟨hc, rfl⟩⟩
            simpa [or_imp, forall_and] using ⟨htalk, rfl⟩
        | poll answer =>
            refine ⟨talk ++ _, [], (List.append_nil _).symm, ?_, .inl ⟨hc, rfl⟩⟩
            simpa [or_imp, forall_and] using ⟨htalk, rfl⟩
        | close answer => exact ⟨talk, _, rfl, htalk, .inr ⟨rfl, answer, by rw [hs]⟩⟩
      · -- Behind a closing there is no step any more.
        obtain ⟨rfl, rfl⟩ := Course.of_released hc (.single step)
        cases step

/-- There is one closing if the attempt is released in the end, and none otherwise. -/
theorem Course.count_closings (ha : a.released = false) (h : Course a calls b) :
    calls.countP Event.isClosing = if b.released then 1 else 0 := by
  obtain ⟨talk, last, rfl, htalk, hlast⟩ := Course.talk_then_close ha h
  have hzero : talk.countP Event.isClosing = 0 := by
    rw [List.countP_eq_zero]
    intro e he
    simp [htalk e he]
  rw [List.countP_append, hzero, Nat.zero_add]
  rcases hlast with ⟨hr, rfl⟩ | ⟨hr, answer, rfl⟩
  · rw [hr]
    rfl
  · rw [hr]
    rfl

/-- The budget has counted the submissions. -/
theorem Course.count_submissions (h : Course a calls b) :
    b.budget.used = a.budget.used + calls.countP Event.isSubmission := by
  induction h with
  | refl => rfl
  | tail _ last ih =>
      rw [List.countP_append, ← Nat.add_assoc, ← ih]
      cases last with
      | submit _ _ hspend => rw [(RetryBudget.spend?_eq_some hspend).2]; rfl
      | poll => rfl
      | close => rfl

end Course

/-- The events are those of one attempt and nothing else, and lead it from one state to another. -/
structure Lives (a : Attempt) (events : List Event) (b : Attempt) : Prop where
  /-- No other session is called. -/
  own : ∀ e ∈ events, e.Among [a.session]
  /-- The calls on its session are a course. -/
  course : Course a (callsOn a.session events) b

theorem Lives.refl (a : Attempt) : a.Lives [] a :=
  ⟨by simp, .refl a⟩

/-- A single call, with notices around it. -/
theorem Lives.single {a b : Attempt} {xs calls : List Event}
    (own : ∀ e ∈ xs, e.Among [a.session]) (hcalls : callsOn a.session xs = calls)
    (step : Step a calls b) : a.Lives xs b :=
  ⟨own, hcalls ▸ Steps.single step⟩

theorem Lives.append {a b c : Attempt} {xs ys : List Event} (h₁ : a.Lives xs b)
    (h₂ : b.Lives ys c) : a.Lives (xs ++ ys) c := by
  have hs : b.session = a.session := h₁.course.session_eq
  refine ⟨?_, ?_⟩
  · exact among_append h₁.own h₂.own (List.Subset.refl _) (by rw [hs]; exact List.Subset.refl _)
  · rw [callsOn_append]
    refine h₁.course.trans ?_
    rw [← hs]
    exact h₂.course

/-- A notice that no person is told of. -/
theorem Lives.told (a : Attempt) (n : Notice) (h : (Event.told n).Among [a.session]) :
    a.Lives [.told n] a := by
  refine ⟨?_, .refl a⟩
  intro e he
  rw [List.mem_singleton.mp he]
  exact h

/-- An entry of the log may come in front. -/
theorem Lives.cons_log {a b : Attempt} {entry : LogEntry} {xs : List Event}
    (h : a.Lives xs b) : a.Lives (.told (.log entry) :: xs) b :=
  (Lives.told a (.log entry) trivial).append h

/-! ## The three operations -/

/-- What asking for a submission does. -/
inductive Submits (a : Attempt) : List Event → Except Fault Bool → Attempt → Prop where
  /-- The attempt is released. -/
  | refused : a.released = true → Submits a [] (.error (.attemptReleased a.config.path)) a
  /-- The budget is used up. -/
  | spent : a.released = false → a.budget.spend? = none →
    Submits a [.told (.log (.budgetSpent a.config.path a.budget.limit))] (.ok false) a
  /-- The service answers, with a number or without one. -/
  | answered {budget : RetryBudget} (jobId : Option Int) :
    a.released = false → a.budget.spend? = some budget →
    Submits a [.submitted a.session a.config (.ok jobId)] (.ok true) { a with budget, jobId }
  /-- A fault of the service is absorbed. -/
  | absorbed {budget : RetryBudget} {fault : Fault} :
    a.released = false → a.budget.spend? = some budget → fault.isJobService = true →
    Submits a [.submitted a.session a.config (.error fault),
        .told (.log (.submissionFailed a.config.path budget.used budget.limit fault))]
      (.ok true) { a with budget, jobId := none }
  /-- Any other fault is passed on. -/
  | failed {budget : RetryBudget} {fault : Fault} :
    a.released = false → a.budget.spend? = some budget → fault.isJobService = false →
    Submits a [.submitted a.session a.config (.error fault)] (.error fault)
      { a with budget, jobId := none }

/-- What asking for the status does. -/
inductive Asks (a : Attempt) : List Event → Except Fault PolledStatus → Prop where
  /-- Nobody has to be asked. -/
  | unasked {answer : Except Fault PolledStatus} : a.asksFor = none →
    answer = a.statusUnasked → Asks a [] answer
  /-- The service answers. -/
  | answered {job : Int} (status : PolledStatus) : a.asksFor = some job →
    Asks a [.polled a.session job (.ok status)] (.ok status)
  /-- A fault of the service is absorbed. -/
  | absorbed {job : Int} {fault : Fault} : a.asksFor = some job → fault.isJobService = true →
    Asks a [.polled a.session job (.error fault),
        .told (.log (.pollFailed job a.config.path fault))]
      (.ok (.known .failed))
  /-- Any other fault is passed on. -/
  | failed {job : Int} {fault : Fault} : a.asksFor = some job → fault.isJobService = false →
    Asks a [.polled a.session job (.error fault)] (.error fault)

/-- What releasing does. -/
inductive Releases (a : Attempt) : List Event → Except Fault Unit → Attempt → Prop where
  /-- The attempt is released already. -/
  | again : a.released = true → Releases a [] (.ok ()) a
  /-- The session is closed, and counts as closed whatever the answer is. -/
  | closed (answer : Except Fault Unit) : a.released = false →
    Releases a [.closed a.session answer] answer { a with released := true }

theorem submit_ensures (a : Attempt) :
    Ensures w (a.submit w.environment) fun r events => a.Submits events r.1 r.2 := by
  unfold submit
  by_cases hr : a.released = true
  · rw [if_pos hr]
    exact .pure (.refused hr)
  · rw [if_neg hr]
    rw [Bool.not_eq_true] at hr
    cases hb : a.budget.spend? with
    | none =>
        refine (Ensures.tell _).bind ?_
        rintro - _ rfl
        exact .pure (.spent hr hb)
    | some budget =>
        refine (Ensures.submit _ _).bind ?_
        rintro (fault | jobId) _ rfl
        · by_cases hf : fault.isJobService = true
          · simp only [hf, if_true]
            refine (Ensures.tell _).bind ?_
            rintro - _ rfl
            exact .pure (.absorbed hr hb hf)
          · rw [Bool.not_eq_true] at hf
            simp only [hf, Bool.false_eq_true, if_false]
            exact .pure (.failed hr hb hf)
        · exact .pure (.answered jobId hr hb)

theorem status_ensures (a : Attempt) :
    Ensures w (a.status w.environment) fun answer events => a.Asks events answer := by
  unfold status
  cases hj : a.asksFor with
  | none => exact .pure (.unasked hj rfl)
  | some job =>
      refine (Ensures.poll _ _).bind ?_
      rintro (fault | status) _ rfl
      · cases hf : fault.isJobService with
        | true =>
            simp only [absorb, hf, if_true]
            refine (Ensures.tell _).bind ?_
            rintro - _ rfl
            exact .pure (.absorbed hj hf)
        | false =>
            simp only [absorb, hf, Bool.false_eq_true, if_false]
            exact .pure (.failed hj hf)
      · exact .pure (.answered status hj)

theorem release_ensures (a : Attempt) :
    Ensures w (a.release w.environment) fun r events => a.Releases events r.1 r.2 := by
  unfold release
  cases hr : a.released with
  | true => exact .pure (.again hr)
  | false =>
      refine (Ensures.close _).bind ?_
      rintro answer _ rfl
      exact .pure (.closed answer hr)

section Operations

variable {a b : Attempt} {events : List Event}

theorem asksFor_eq_some {job : Int} (h : a.asksFor = some job) :
    a.released = false ∧ a.jobId = some job := by
  unfold asksFor at h
  split at h
  · cases h
  · next hr => exact ⟨by simpa using hr, h⟩

theorem Submits.lives {answer : Except Fault Bool} (h : a.Submits events answer b) :
    a.Lives events b := by
  cases h with
  | refused => exact .refl a
  | spent => exact .cons_log (.refl a)
  | answered jobId hr hb =>
      exact .single (by simp [Event.Among]) (by simp) (Step.submit (.ok jobId) hr hb)
  | @absorbed _ fault hr hb =>
      exact .single (by simp [Event.Among]) (by simp) (Step.submit (.error fault) hr hb)
  | @failed _ fault hr hb =>
      exact .single (by simp [Event.Among]) (by simp) (Step.submit (.error fault) hr hb)

theorem Submits.released_eq {answer : Except Fault Bool} (h : a.Submits events answer b) :
    b.released = a.released := by
  cases h <;> rfl

theorem Submits.plain {answer : Except Fault Bool} (h : a.Submits events answer b) :
    ∀ e ∈ events, e.Plain := by
  cases h <;> simp [Event.Plain]

/-- A submission is only given up once the budget is used up. -/
theorem Submits.spent_of_false (h : a.Submits events (.ok false) b) :
    b = a ∧ callsOn a.session events = [] ∧ a.budget.used = a.budget.limit := by
  cases h with
  | spent _ hb => exact ⟨rfl, by simp, a.budget.spend?_eq_none_iff.mp hb⟩

theorem Asks.lives {answer : Except Fault PolledStatus} (h : a.Asks events answer) :
    a.Lives events a := by
  cases h with
  | unasked => exact .refl a
  | answered status hj =>
      obtain ⟨hr, hj⟩ := asksFor_eq_some hj
      exact .single (by simp [Event.Among]) (by simp) (Step.poll (.ok status) hr hj)
  | @absorbed _ fault hj =>
      obtain ⟨hr, hj⟩ := asksFor_eq_some hj
      exact .single (by simp [Event.Among]) (by simp) (Step.poll (.error fault) hr hj)
  | @failed _ fault hj =>
      obtain ⟨hr, hj⟩ := asksFor_eq_some hj
      exact .single (by simp [Event.Among]) (by simp) (Step.poll (.error fault) hr hj)

theorem Asks.plain {answer : Except Fault PolledStatus} (h : a.Asks events answer) :
    ∀ e ∈ events, e.Plain := by
  cases h <;> simp [Event.Plain]

/-- Only an attempt that is not released has a status. -/
theorem Asks.released_eq_false {status : PolledStatus} (h : a.Asks events (.ok status)) :
    a.released = false := by
  cases h with
  | unasked _ hs =>
      unfold statusUnasked at hs
      split at hs
      · cases hs
      · next hr => simpa using hr
  | answered _ hj => exact (asksFor_eq_some hj).1
  | absorbed hj => exact (asksFor_eq_some hj).1

/-- A status other than `failed` is the service's own answer. -/
theorem Asks.polled_of_ne_failed {status : PolledStatus} (h : a.Asks events (.ok status))
    (hs : status ≠ .known .failed) :
    ∃ job, callsOn a.session events = [.polled a.session job (.ok status)] := by
  cases h with
  | unasked _ hu =>
      unfold statusUnasked at hu
      split at hu
      · cases hu
      · exact absurd (Except.ok.inj hu) hs
  | @answered job => exact ⟨job, by simp⟩
  | absorbed => exact absurd rfl hs

theorem Releases.lives {answer : Except Fault Unit} (h : a.Releases events answer b) :
    a.Lives events b := by
  cases h with
  | again => exact .refl a
  | closed answer hr =>
      exact .single (by simp [Event.Among]) (by simp) (Step.close answer hr)

theorem Releases.plain {answer : Except Fault Unit} (h : a.Releases events answer b) :
    ∀ e ∈ events, e.Plain := by
  cases h <;> simp [Event.Plain]

theorem Releases.released {answer : Except Fault Unit} (h : a.Releases events answer b) :
    b.released = true := by
  cases h with
  | again hr => exact hr
  | closed => rfl

end Operations

/-- What an operation does. -/
inductive Performs (a : Attempt) : Call → List Event → Except Fault Reply → Attempt → Prop where
  /-- The job is submitted. -/
  | submit {events : List Event} {answer : Except Fault Bool} {b : Attempt} :
    a.Submits events answer b → Performs a .submit events (answer.map Reply.submitted) b
  /-- The status is asked for. -/
  | status {events : List Event} {answer : Except Fault PolledStatus} :
    a.Asks events answer → Performs a .status events (answer.map Reply.status) a
  /-- The session is closed. -/
  | release {events : List Event} {answer : Except Fault Unit} {b : Attempt} :
    a.Releases events answer b →
    Performs a .release events (answer.map fun _ => Reply.released) b

theorem perform_ensures (a : Attempt) (c : Call) :
    Ensures w (a.perform w.environment c) fun r events => a.Performs c events r.1 r.2 := by
  cases c with
  | submit =>
      refine a.submit_ensures.bind ?_
      rintro ⟨answer, b⟩ events h
      exact .pure (by simpa using .submit h)
  | status =>
      refine a.status_ensures.bind ?_
      intro answer events h
      exact .pure (by simpa using .status h)
  | release =>
      refine a.release_ensures.bind ?_
      rintro ⟨answer, b⟩ events h
      exact .pure (by simpa using .release h)

section Performs

variable {a b : Attempt} {c : Call} {events : List Event} {answer : Except Fault Reply}

/-- An operation makes calls on the session of its own attempt. -/
theorem Performs.lives (h : a.Performs c events answer b) : a.Lives events b := by
  cases h with
  | submit h => exact h.lives
  | status h => exact h.lives
  | release h => exact h.lives

theorem Performs.plain (h : a.Performs c events answer b) : ∀ e ∈ events, e.Plain := by
  cases h with
  | submit h => exact h.plain
  | status h => exact h.plain
  | release h => exact h.plain

/-- Only releasing releases. -/
theorem Performs.released_eq (h : a.Performs c events answer b) (hc : c ≠ .release) :
    b.released = a.released := by
  cases h with
  | submit h => exact h.released_eq
  | status => rfl
  | release => exact absurd rfl hc

end Performs

/-! ## Settling a status -/

/-- An attempt that leaves, after it was released. -/
def leaving (why : Departure) (answer : Except Fault Unit) (a : Attempt) : Settlement :=
  { attempt := a, departure := some why, fault := fault? answer }

/-- What settling a status does. -/
inductive Settles (a : Attempt) : PolledStatus → List Event → Settlement → Prop where
  /-- The job is on its way. -/
  | pending {status : JobStatus} : status.isPending = true →
    Settles a (.known status) [] { attempt := a }
  /-- The job is done, and the attempt leaves. -/
  | finished {status : JobStatus} {events : List Event} {answer : Except Fault Unit}
      {b : Attempt} : status.isFinished = true → Releases a events answer b →
    Settles a (.known status) (.told (.log (.finished a.config.path status)) :: events)
      (b.leaving .completed answer)
  /-- The job failed and is submitted again. -/
  | resubmitted {events : List Event} {b : Attempt} : Submits a events (.ok true) b →
    Settles a (.known .failed) events { attempt := b }
  /-- The job failed once too often, and the attempt leaves. -/
  | givenUp {xs ys : List Event} {answer : Except Fault Unit} {b c : Attempt} :
    Submits a xs (.ok false) b → Releases b ys answer c →
    Settles a (.known .failed) (xs ++ ys) (c.leaving .abandoned answer)
  /-- The job failed and cannot be submitted again. -/
  | failed {events : List Event} {fault : Fault} {b : Attempt} :
    Submits a events (.error fault) b →
    Settles a (.known .failed) events { attempt := b, fault := some fault }
  /-- The status is none of the five. -/
  | unknown (text : String) :
    Settles a (.unknown text) [] { attempt := a, fault := some (.unhandledStatus text) }

theorem depart_ensures (a : Attempt) (why : Departure) :
    Ensures w (a.depart w.environment why) fun first events =>
      ∃ answer b, a.Releases events answer b ∧ first = b.leaving why answer := by
  refine (release_ensures a).bind ?_
  rintro ⟨_ | _, b⟩ events h
  · exact .pure ⟨_, b, by simpa using h, rfl⟩
  · exact .pure ⟨_, b, by simpa using h, rfl⟩

theorem settle_ensures (a : Attempt) (status : PolledStatus) :
    Ensures w (a.settle w.environment status) fun first events =>
      a.Settles status events first := by
  match status with
  | .known .created => exact .pure (.pending rfl)
  | .known .running => exact .pure (.pending rfl)
  | .known .completed =>
      refine (Ensures.tell _).bind ?_
      rintro - _ rfl
      refine (depart_ensures a .completed).mono ?_
      rintro _ events ⟨answer, b, h, rfl⟩
      exact .finished rfl h
  | .known .canceled =>
      refine (Ensures.tell _).bind ?_
      rintro - _ rfl
      refine (depart_ensures a .completed).mono ?_
      rintro _ events ⟨answer, b, h, rfl⟩
      exact .finished rfl h
  | .known .failed =>
      refine (submit_ensures a).bind ?_
      rintro ⟨fault | granted, b⟩ events h
      · exact .pure (by simpa using .failed h)
      · cases granted with
        | true => exact .pure (by simpa using .resubmitted h)
        | false =>
            refine (depart_ensures b .abandoned).mono ?_
            rintro _ more ⟨answer, c, h', rfl⟩
            exact .givenUp h h'
  | .unknown text => exact .pure (.unknown text)

section Settles

variable {a : Attempt} {status : PolledStatus} {events : List Event} {first : Settlement}

theorem Settles.lives (h : a.Settles status events first) : a.Lives events first.attempt := by
  cases h with
  | pending => exact .refl a
  | finished _ h => exact .cons_log h.lives
  | resubmitted h => exact h.lives
  | givenUp h h' => exact h.lives.append h'.lives
  | failed h => exact h.lives
  | unknown => exact .refl a

theorem Settles.plain (h : a.Settles status events first) : ∀ e ∈ events, e.Plain := by
  cases h with
  | pending | unknown => simp
  | finished _ h => exact List.forall_mem_cons.mpr ⟨trivial, h.plain⟩
  | resubmitted h | failed h => exact h.plain
  | givenUp h h' => exact List.forall_mem_append.mpr ⟨h.plain, h'.plain⟩

/-- An attempt that stays is released only if it was before. -/
theorem Settles.released_eq (h : a.Settles status events first)
    (hstay : first.departure = none) : first.attempt.released = a.released := by
  cases h with
  | pending => rfl
  | finished => cases hstay
  | resubmitted h => exact h.released_eq
  | givenUp => cases hstay
  | failed h => exact h.released_eq
  | unknown => rfl

end Settles

end Attempt

end LoadDispatch
