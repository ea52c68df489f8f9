import LoadDispatch.Proofs.Attempt.Rules
import LoadDispatch.Proofs.Pool.Retry

/-!
# An attempt is told by its calls

An attempt is a small machine.  Its owner may submit it, ask for its status and release it in any
order and as often as it likes, and the session may answer each call as it pleases.  Nothing of the
machine has to be known to say what it will do next: the calls so far and what the session has seen
of them decide.

* `submitsAsked` counts how often the attempt was told to submit before it was first released.  The
  budget has granted as many of these as its limit allows, and no others.
* `numberAfter` is the number in the answer to the latest submission.  A submission that ends
  without a number leaves none, so no number outlives the submission that it was given to.
* `Conforms` is the table of what a call does, with these as its conditions.

`Told` is the invariant: the attempt is where its calls have led it.  A single operation keeps it
(`Told.performs`), so any number of them do, and each line of the table is read off it.
-/

namespace LoadDispatch.Attempt

/-! ## Histories of an attempt -/

section Histories

variable {m : Type → Type} [Monad m]

/-- Performs operations one after the other, whatever becomes of them; answers all replies, and the
attempt afterwards. -/
def performAll (env : Environment m) (a : Attempt) :
    List Call → m (List (Except Fault Reply) × Attempt)
  | [] => pure ([], a)
  | c :: rest => do
    let (reply, a) ← a.perform env c
    let (replies, a) ← performAll env a rest
    pure (reply :: replies, a)

end Histories

/-- What operations do one after the other. -/
inductive PerformsAll : Attempt → List Call → List Event → Attempt → Prop where
  /-- None is left. -/
  | nil (a : Attempt) : PerformsAll a [] [] a
  /-- One operation, then the others. -/
  | cons {a b last : Attempt} {c : Call} {rest : List Call} {xs ys : List Event}
      {reply : Except Fault Reply} :
    a.Performs c xs reply b → PerformsAll b rest ys last →
    PerformsAll a (c :: rest) (xs ++ ys) last

theorem performAll_ensures {ω : Type} {w : World ω} (a : Attempt) (calls : List Call) :
    Ensures w (a.performAll w.environment calls) fun r events =>
      a.PerformsAll calls events r.2 := by
  induction calls generalizing a with
  | nil => exact .pure (.nil a)
  | cons c rest ih =>
      refine (a.perform_ensures c).bind ?_
      rintro ⟨reply, b⟩ xs h
      refine (ih b).bind ?_
      rintro ⟨replies, last⟩ ys hs
      exact .pure (by simpa using .cons h hs)

/-! ## Released attempts -/

/-- The reply of an attempt that is released: there is nothing left to release, and all else is
refused. -/
def whenReleased (config : JobConfig) : Call → Except Fault Reply
  | .release => .ok .released
  | .submit | .status => .error (.attemptReleased config.path)

section Released

variable {a b : Attempt} {c : Call} {own : List Event}

theorem Submits.of_released {answer : Except Fault Bool} (h : a.Submits own answer b)
    (hreleased : a.released = true) :
    own = [] ∧ answer = .error (.attemptReleased a.config.path) ∧ b = a := by
  cases h with
  | refused => exact ⟨rfl, rfl, rfl⟩
  | spent hopen | answered _ hopen | absorbed hopen | failed hopen =>
      rw [hreleased] at hopen
      cases hopen

theorem Asks.of_released {answer : Except Fault PolledStatus} (h : a.Asks own answer)
    (hreleased : a.released = true) :
    own = [] ∧ answer = .error (.attemptReleased a.config.path) := by
  cases h with
  | unasked _ hunasked =>
      rw [statusUnasked, if_pos hreleased] at hunasked
      exact ⟨rfl, hunasked⟩
  | answered _ hasked | absorbed hasked | failed hasked =>
      rw [(asksFor_eq_some hasked).1] at hreleased
      cases hreleased

/-- A released attempt does nothing any more. -/
theorem Performs.of_released {reply : Except Fault Reply} (h : a.Performs c own reply b)
    (hreleased : a.released = true) : own = [] ∧ reply = whenReleased a.config c ∧ b = a := by
  cases h with
  | submit hsubmits =>
      obtain ⟨rfl, rfl, rfl⟩ := hsubmits.of_released hreleased
      exact ⟨rfl, rfl, rfl⟩
  | status hasks =>
      obtain ⟨rfl, rfl⟩ := hasks.of_released hreleased
      exact ⟨rfl, rfl, rfl⟩
  | release hreleases =>
      cases hreleases with
      | again => exact ⟨rfl, rfl, rfl⟩
      | closed _ hopen =>
          rw [hreleased] at hopen
          cases hopen

end Released

/-! ## The invariant -/

/-- How often an attempt was told to submit its job before it was first released. -/
def submitsAsked (calls : List Call) : Nat :=
  (calls.takeWhile (· ≠ .release)).count .submit

/-- A call counts if it is a submit and comes before the first release. -/
theorem submitsAsked_concat (calls : List Call) (c : Call) :
    submitsAsked (calls ++ [c]) =
      submitsAsked calls + if .release ∉ calls ∧ c = .submit then 1 else 0 := by
  induction calls with
  | nil => cases c <;> rfl
  | cons first rest ih =>
      unfold submitsAsked at ih ⊢
      cases first with
      | release => simp
      | submit =>
          simp only [List.cons_append, List.takeWhile_cons, ne_eq, reduceCtorEq, not_false_eq_true,
            decide_true, if_true, List.count_cons_self, List.mem_cons, false_or, ih]
          exact Nat.add_right_comm _ _ _
      | status =>
          simp only [List.cons_append, List.takeWhile_cons, ne_eq, reduceCtorEq, not_false_eq_true,
            decide_true, if_true, List.mem_cons, false_or]
          simpa using ih

/-- An attempt is where its calls have led it, from a fresh one. -/
structure Told (fresh : Attempt) (calls : List Call) (events : List Event) (a : Attempt) :
    Prop where
  /-- The events are its own. -/
  lives : fresh.Lives events a
  /-- It is released if it was told to be. -/
  released_iff : a.released = true ↔ .release ∈ calls
  /-- What it was told to submit was granted, as far as the limit goes. -/
  submissions_eq : a.submissions = min (submitsAsked calls) fresh.budget.limit

namespace Told

variable {fresh a b : Attempt} {calls more : List Call} {c : Call} {events own : List Event}
  {reply : Except Fault Reply}

theorem initial (hopen : fresh.released = false) (hunused : fresh.budget.used = 0) :
    Told fresh [] [] fresh where
  lives := .refl fresh
  released_iff := by simp [hopen]
  submissions_eq := by simp [submissions, submitsAsked, hunused]

theorem limit_eq (h : Told fresh calls events a) : a.budget.limit = fresh.budget.limit :=
  (Course.frame h.lives.course).2.2

theorem released_eq_false (h : Told fresh calls events a) (hcalls : .release ∉ calls) :
    a.released = false := by
  rw [← Bool.not_eq_true, h.released_iff]
  exact hcalls

/-- A submission counts if the attempt is not released and budget is left. -/
theorem submissions_of_submits (h : Told fresh calls events a) {answer : Except Fault Bool}
    (hc : a.Submits own answer b) :
    b.submissions = min (submitsAsked (calls ++ [.submit])) fresh.budget.limit := by
  have hsubmissions := h.submissions_eq
  rw [submitsAsked_concat]
  by_cases hcalls : Call.release ∈ calls
  · obtain ⟨-, -, rfl⟩ := hc.of_released (h.released_iff.mpr hcalls)
    rw [if_neg (fun hcount => hcount.1 hcalls), hsubmissions, Nat.add_zero]
  · rw [if_pos ⟨hcalls, rfl⟩]
    have hlimit := h.limit_eq
    unfold submissions at hsubmissions ⊢
    rcases hc.submission (h.released_eq_false hcalls) with
      ⟨hspent, -, -, rfl⟩ | ⟨budget, _, hspend, -, -, rfl⟩
    · have hused := b.budget.spend?_eq_none_iff.mp hspent
      omega
    · obtain ⟨hlimit', hused⟩ := RetryBudget.spend?_eq_some hspend
      have hle := budget.used_le
      dsimp only
      omega

/-- **An operation leads on from where the calls so far have led.** -/
theorem performs (h : Told fresh calls events a) (hc : a.Performs c own reply b) :
    Told fresh (calls ++ [c]) (events ++ own) b := by
  have hlives := h.lives.append hc.lives
  -- Asking for the status and releasing leave the budget alone.
  have hquiet : c ≠ .submit → b.submissions = a.submissions →
      b.submissions = min (submitsAsked (calls ++ [c])) fresh.budget.limit := by
    intro hne heq
    rw [heq, h.submissions_eq, submitsAsked_concat, if_neg (fun hcount => hne hcount.2),
      Nat.add_zero]
  cases hc with
  | submit hsubmits =>
      refine ⟨hlives, ?_, h.submissions_of_submits hsubmits⟩
      rw [hsubmits.released_eq, h.released_iff]
      simp
  | status hasks =>
      refine ⟨hlives, ?_, hquiet (by decide) rfl⟩
      rw [h.released_iff]
      simp
  | release hreleases =>
      refine ⟨hlives, ?_, hquiet (by decide) ?_⟩
      · simp [hreleases.released]
      · cases hreleases <;> rfl

/-- So do any number of them. -/
theorem performsAll (h : Told fresh calls events a) (hmore : a.PerformsAll more own b) :
    Told fresh (calls ++ more) (events ++ own) b := by
  induction hmore generalizing calls events with
  | nil => simpa using h
  | cons hfirst _ ih =>
      rw [List.append_cons, ← List.append_assoc]
      exact ih (h.performs hfirst)

end Told

/-! ## What a call does -/

/-- What a call does to an attempt, given the calls that a fresh one has got before and what its
session has seen of them: the calls on the session, the reply, and the attempt afterwards. -/
def Conforms (fresh : Attempt) (calls : List Call) (seen : List Event) (a : Attempt) (c : Call)
    (own : List Event) (reply : Except Fault Reply) (b : Attempt) : Prop :=
  if .release ∈ calls then own = [] ∧ reply = whenReleased fresh.config c ∧ b = a
  else
    match c with
    | .submit =>
      if submitsAsked calls < fresh.budget.limit then
        ∃ answer, own = [.submitted fresh.session fresh.config answer] ∧
          reply = (accept answer).map Reply.submitted ∧
          b.jobId = answer.toOption.join ∧ b.submissions = a.submissions + 1 ∧ b.released = false
      else own = [] ∧ reply = .ok (.submitted false) ∧ b = a
    | .status =>
      match numberAfter seen with
      | some job => ∃ answer, own = [.polled fresh.session job answer] ∧
          reply = (absorb answer).map Reply.status ∧ b = a
      | none => own = [] ∧ reply = .ok (.status (.known .failed)) ∧ b = a
    | .release => ∃ answer, own = [.closed fresh.session answer] ∧
        reply = answer.map (fun _ => Reply.released) ∧ b = { a with released := true }

section Conforms

variable {fresh a b : Attempt} {calls : List Call} {c : Call} {events own : List Event}

namespace Told

theorem jobId_eq (h : Told fresh calls events a) (hnone : fresh.jobId = none) :
    a.jobId = numberAfter (callsOn fresh.session events) := by
  rw [Course.jobId_eq h.lives.course, hnone]
  rfl

/-- A submission of an open attempt is granted as long as the limit allows it. -/
theorem submits (h : Told fresh calls events a) (hcalls : .release ∉ calls)
    {answer : Except Fault Bool} (hc : a.Submits own answer b) (seen : List Event) :
    Conforms fresh calls seen a .submit (callsOn fresh.session own)
      (answer.map Reply.submitted) b := by
  obtain ⟨hsession, hconfig, hlimit⟩ := Course.frame h.lives.course
  have hopen := h.released_eq_false hcalls
  have hsubmissions := h.submissions_eq
  rw [Conforms, if_neg hcalls, ← hsession, ← hconfig]
  unfold submissions at hsubmissions ⊢
  rcases hc.submission hopen with
    ⟨hspent, hown, rfl, rfl⟩ | ⟨budget, reply, hspend, hown, rfl, rfl⟩
  · have hused := b.budget.spend?_eq_none_iff.mp hspent
    have hnone : ¬ submitsAsked calls < fresh.budget.limit := by omega
    exact (if_neg hnone).mpr ⟨hown, rfl, rfl⟩
  · obtain ⟨hlimit', hused⟩ := RetryBudget.spend?_eq_some hspend
    have hle := budget.used_le
    have hleft : submitsAsked calls < fresh.budget.limit := by omega
    exact (if_pos hleft).mpr ⟨reply, hown, rfl, rfl, hused, hopen⟩

/-- An open attempt asks about the number of its latest submission, and about no other. -/
theorem asks (h : Told fresh calls events a) (hcalls : .release ∉ calls)
    (hnone : fresh.jobId = none) {answer : Except Fault PolledStatus} (hc : a.Asks own answer) :
    Conforms fresh calls (callsOn fresh.session events) a .status (callsOn fresh.session own)
      (answer.map Reply.status) a := by
  have hopen := h.released_eq_false hcalls
  have hasksFor : a.asksFor = numberAfter (callsOn fresh.session events) := by
    rw [← h.jobId_eq hnone]
    simp [asksFor, hopen]
  rw [Conforms, if_neg hcalls, ← hasksFor, ← h.lives.course.session_eq]
  rcases hc.query with ⟨hunasked, hown, rfl⟩ | ⟨job, reply, hasked, hown, rfl⟩
  · rw [hunasked]
    refine ⟨hown, ?_, rfl⟩
    simp [statusUnasked, hopen, Except.map]
  · rw [hasked]
    exact ⟨reply, hown, rfl, rfl⟩

/-- **Every call does what the table says**, wherever the calls before have led. -/
theorem conforms (h : Told fresh calls events a) (hnone : fresh.jobId = none)
    {reply : Except Fault Reply} (hc : a.Performs c own reply b) :
    Conforms fresh calls (callsOn fresh.session events) a c (callsOn fresh.session own) reply
      b := by
  by_cases hcalls : Call.release ∈ calls
  · obtain ⟨rfl, rfl, rfl⟩ := hc.of_released (h.released_iff.mpr hcalls)
    unfold Conforms
    rw [if_pos hcalls, ← (Course.frame h.lives.course).2.1]
    exact ⟨rfl, rfl, rfl⟩
  · cases hc with
    | submit hsubmits => exact h.submits hcalls hsubmits _
    | status hasks => exact h.asks hcalls hnone hasks
    | release hreleases =>
        obtain ⟨rfl, rfl⟩ := hreleases.of_open (h.released_eq_false hcalls)
        rw [Conforms, if_neg hcalls, ← h.lives.course.session_eq]
        exact ⟨_, by simp, rfl, rfl⟩

end Told

end Conforms

/-- **An attempt is told by its calls.**  Let an attempt be made with a budget of at least one
submission, and let it get any calls in any order, in any world.  Then, whatever the session has
answered:

* it has submitted as often as its session was called to, and that is as often as it was told to
  before the first release, as far as the limit goes;
* it has the number in the answer to the latest submission, if there is one;
* it is released if it was told to be, and then its session was closed once, however that went;
* the next call does what `Conforms` says.  A release that was made before makes a submission and a
  question for the status fail at once, with a fault of the runtime. -/
theorem attempt_is_told_by_its_calls {ω : Type} (w : World ω) (session : Session)
    (config : JobConfig) (limit : Int) (hlimit : 1 ≤ limit) (d : Desk ω) :
    ∃ budget, RetryBudget.ofLimit? limit = .ok budget ∧ ∀ calls : List Call,
      let fresh : Attempt := { session, config, budget }
      let r := fresh.performAll w.environment calls d
      let a := r.1.2
      let seen := (r.2.eventsSince d.journal.length).filter (·.callOn?.isSome)
      (a.submissions = seen.countP Event.isSubmission ∧
        a.submissions = min (submitsAsked calls) limit.toNat) ∧
      a.jobId = numberAfter seen ∧
      (a.released = true ↔ .release ∈ calls) ∧
      seen.countP Event.isClosing = (if .release ∈ calls then 1 else 0) ∧
      (∀ c,
        let next := a.perform w.environment c r.2
        Conforms fresh calls seen a c
          ((next.2.eventsSince r.2.journal.length).filter (·.callOn?.isSome)) next.1.1 next.1.2) ∧
      (Fault.attemptReleased config.path).kind = .runtime := by
  refine ⟨_, dif_pos hlimit, ?_⟩
  intro calls fresh r a seen
  obtain ⟨-, hcalls⟩ := (performAll_ensures fresh calls).of_run (w := w) (d := d) rfl
  have hnew : Told fresh [] [] fresh := .initial rfl rfl
  have h : Told fresh calls (r.2.eventsSince d.journal.length) a := by
    simpa using hnew.performsAll hcalls
  have hseen : seen = callsOn session (r.2.eventsSince d.journal.length) :=
    filter_callOn?_eq_callsOn h.lives.own
  have hcourse : fresh.Course seen a := hseen ▸ h.lives.course
  refine ⟨⟨?_, h.submissions_eq⟩, ?_, h.released_iff, ?_, ?_, rfl⟩
  · have hused := Course.count_submissions hcourse
    rwa [Nat.zero_add] at hused
  · rw [hseen]
    exact h.jobId_eq rfl
  · rw [Course.count_closings rfl hcourse]
    simp only [h.released_iff]
  · intro c next
    obtain ⟨-, hc⟩ := (a.perform_ensures c).of_run
      (show a.perform w.environment c r.2 = (next.1, next.2) from rfl)
    have hsession : a.session = session := h.lives.course.session_eq
    have hown := hc.lives.own
    rw [hsession] at hown
    rw [hseen, filter_callOn?_eq_callsOn hown]
    exact h.conforms rfl hc

/-- The first submission of `/a` is given the number zero, and the second one none. -/
def numberedZero : Rehearsal.Services where
  jobs := { submissions := [("/a", [.given (some 0), .fault (.outside .runtime "down")])] }

/-- An attempt for `/a` with two submissions. -/
def attemptAtZero : Attempt where
  session := ⟨1⟩
  config := { path := "/a" }
  budget := { limit := 2, limit_pos := Nat.two_pos }

/-- What `attemptAtZero` asks its session when it is asked for the status behind some calls. -/
def askedAtZero (calls : List Call) : List Event :=
  let r := attemptAtZero.performAll Rehearsal.Services.world.environment calls
    { world := numberedZero }
  let next := r.1.2.perform Rehearsal.Services.world.environment .status r.2
  (next.2.eventsSince r.2.journal.length).filter (·.callOn?.isSome)

/-- In `numberedZero` the attempt asks about number zero, and about nothing any more once its second
submission has gone wrong. -/
theorem attempt_is_told_by_its_calls_at_number_zero :
    (1 : Int) ≤ 2 ∧ (∃ answer, askedAtZero [.submit] = [.polled ⟨1⟩ 0 answer]) ∧
      askedAtZero [.submit, .submit] = [] := by
  obtain ⟨budget, hbudget, h⟩ := attempt_is_told_by_its_calls Rehearsal.Services.world ⟨1⟩
    { path := "/a" } 2 (by decide) { world := numberedZero }
  obtain rfl : { limit := 2, limit_pos := Nat.two_pos } = budget := Except.ok.inj hbudget
  refine ⟨by decide, ?_, ?_⟩
  · obtain ⟨-, -, -, -, hnext, -⟩ := h [.submit]
    obtain ⟨answer, hown, -, -⟩ := hnext .status
    exact ⟨answer, hown⟩
  · obtain ⟨-, -, -, -, hnext, -⟩ := h [.submit, .submit]
    obtain ⟨hown, -, -⟩ := hnext .status
    exact hown

end LoadDispatch.Attempt
