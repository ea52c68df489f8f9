import LoadDispatch.Proofs.Pool.Conservation
import LoadDispatch.Rehearsal.Services

/-!
# When a job is submitted again

A job is submitted again only after a failure was seen, and it is given up only after its last
submission was seen to fail.  What was *seen* is read off the calls on its session: `numberAfter` is
the number that the latest submission was given, `FailureSeen` says that it was given none or that
a query of its number has just failed, and `AnswerSeen` says what such a query was answered.

Both facts are about pools that are left to themselves: the owner performs operations and calls no
attempt.  Such a run consists of `Beat`s, and its invariant has two parts.

* `Retried`: on each session every submission but the first comes right behind a failure.
* `Departed.Explained`: who has left was taken out by a sweep of this run that came to its turn
  (`Processed`), with the failure of its last submission in sight or with a finished status.

The first part goes along with the calls of each attempt in a sweep, since a sweep submits only for
an attempt that it has just found failed (`Attempt.Settles.submits`).  The second one only has to be
remembered.
-/

namespace LoadDispatch

/-! ## What was seen of a job -/

/-- The number that a job has after an event. -/
def Event.number (job : Option Int) : Event → Option Int
  | .submitted _ _ answer => answer.toOption.join
  | _ => job

/-- The number that the latest submission was given, if it was given one. -/
def numberAfter (calls : List Event) : Option Int :=
  calls.foldl Event.number none

/-- The last call was a query of the latest number, and this is its answer. -/
def AnswerSeen (s : Session) (answer : Except Fault PolledStatus) (calls : List Event) : Prop :=
  ∃ before job, calls = before ++ [.polled s job answer] ∧ numberAfter before = some job

/-- The latest submission was seen to fail: it was given no number, or the query of its number that
was just made was answered `failed` or met a fault of the job service. -/
def FailureSeen (s : Session) (calls : List Event) : Prop :=
  numberAfter calls = none ∨ AnswerSeen s (.ok (.known .failed)) calls ∨
    ∃ fault, fault.isJobService = true ∧ AnswerSeen s (.error fault) calls

/-- On a session every submission but the first one comes right behind a failure that was seen. -/
def Retried (s : Session) (calls : List Event) : Prop :=
  ∀ before config answer, before ++ [.submitted s config answer] <+: calls →
    before = [] ∨ FailureSeen s before

section Seen

variable {s : Session} {calls more : List Event} {e : Event}

theorem numberAfter_append :
    numberAfter (calls ++ more) = more.foldl Event.number (numberAfter calls) :=
  List.foldl_append

/-- There is one answer at most that was just seen. -/
theorem AnswerSeen.unique {answer answer' : Except Fault PolledStatus}
    (h : AnswerSeen s answer calls) (h' : AnswerSeen s answer' calls) : answer' = answer := by
  obtain ⟨before, job, rfl, -⟩ := h
  obtain ⟨before', job', heq, -⟩ := h'
  obtain ⟨-, hlast⟩ := List.append_inj' heq rfl
  cases hlast
  rfl

/-- An answer was seen of a job with a number. -/
theorem AnswerSeen.numberAfter_ne {answer : Except Fault PolledStatus}
    (h : AnswerSeen s answer calls) : numberAfter calls ≠ none := by
  obtain ⟨before, job, rfl, hjob⟩ := h
  rw [numberAfter_append, hjob]
  simp [Event.number]

/-- A job that was seen to fail was not just seen in another status. -/
theorem FailureSeen.status_eq {status : PolledStatus} (h : FailureSeen s calls)
    (hseen : AnswerSeen s (.ok status) calls) : status = .known .failed := by
  rcases h with hnone | hfailed | ⟨fault, -, hfault⟩
  · exact absurd hnone hseen.numberAfter_ne
  · exact Except.ok.inj (hfailed.unique hseen)
  · cases hfault.unique hseen

namespace Retried

theorem nil (s : Session) : Retried s [] := by
  intro before config answer h
  exact absurd (List.prefix_nil.mp h) (by simp)

/-- One call more, which has to have a reason if it is a submission. -/
theorem concat (h : Retried s calls)
    (he : ∀ config answer, e = .submitted s config answer → calls = [] ∨ FailureSeen s calls) :
    Retried s (calls ++ [e]) := by
  intro before config answer hprefix
  rcases List.prefix_concat_iff.mp hprefix with heq | hprefix
  · obtain ⟨rfl, hlast⟩ := List.append_inj' heq rfl
    exact he config answer (List.singleton_inj.mp hlast).symm
  · exact h before config answer hprefix

/-- Calls that submit nothing need no reason. -/
theorem append (h : Retried s calls) (hmore : ∀ e ∈ more, e.isSubmission = false) :
    Retried s (calls ++ more) := by
  induction more generalizing calls with
  | nil => simpa using h
  | cons e rest ih =>
      rw [List.forall_mem_cons] at hmore
      rw [List.append_cons]
      refine ih (h.concat ?_) hmore.2
      rintro config answer rfl
      cases hmore.1

end Retried

end Seen

/-! ## One attempt -/

namespace Attempt

variable {a b : Attempt} {calls own : List Event}

/-- The attempt has the number of its latest submission. -/
theorem Course.jobId_eq (h : Course a calls b) : b.jobId = calls.foldl Event.number a.jobId := by
  induction h with
  | refl => rfl
  | tail _ last ih =>
      rw [List.foldl_append, ← ih]
      cases last <;> rfl

/-- Asking submits nothing. -/
theorem Asks.not_isSubmission {answer : Except Fault PolledStatus} (h : a.Asks own answer) :
    ∀ e ∈ own, e.isSubmission = false := by
  cases h <;> simp [Event.isSubmission]

theorem Asks.count_submissions {answer : Except Fault PolledStatus} (h : a.Asks own answer)
    (s : Session) : (callsOn s own).countP Event.isSubmission = 0 := by
  rw [List.countP_eq_zero]
  intro e he
  simpa using h.not_isSubmission e (mem_callsOn.mp he).1

/-- Releasing submits nothing. -/
theorem Releases.not_isSubmission {answer : Except Fault Unit} (h : a.Releases own answer b) :
    ∀ e ∈ own, e.isSubmission = false := by
  cases h <;> simp [Event.isSubmission]

/-- **What a status stands for**: the status `failed` for a failure, and any other for an answer
of the service that was just seen. -/
theorem Asks.seen {status : PolledStatus} (h : a.Asks own (.ok status))
    (hjob : a.jobId = numberAfter calls) :
    (status = .known .failed ∧ FailureSeen a.session (calls ++ callsOn a.session own)) ∨
      (status ≠ .known .failed ∧
        AnswerSeen a.session (.ok status) (calls ++ callsOn a.session own)) := by
  have hr := h.released_eq_false
  cases h with
  | unasked hasks hstatus =>
      have hnone : a.jobId = none := by simpa [asksFor, hr] using hasks
      have hfailed : status = .known .failed := by simpa [statusUnasked, hr] using hstatus
      refine .inl ⟨hfailed, .inl ?_⟩
      rw [callsOn_nil, List.append_nil, ← hjob, hnone]
  | @answered job _ hasks =>
      have hsome := (asksFor_eq_some hasks).2
      have hseen : AnswerSeen a.session (.ok status)
          (calls ++ callsOn a.session [.polled a.session job (.ok status)]) :=
        ⟨calls, job, by simp, hjob ▸ hsome⟩
      by_cases hfailed : status = .known .failed
      · exact .inl ⟨hfailed, .inr (.inl (hfailed ▸ hseen))⟩
      · exact .inr ⟨hfailed, hseen⟩
  | @absorbed job fault hasks hfault =>
      have hsome := (asksFor_eq_some hasks).2
      exact .inl ⟨rfl, .inr (.inr ⟨fault, hfault, calls, job, by simp, hjob ▸ hsome⟩)⟩

/-- **Settling submits only a job that has failed**, and only once. -/
theorem Settles.submits {status : PolledStatus} {first : Settlement}
    (h : a.Settles status own first) :
    (∀ e ∈ callsOn a.session own, e.isSubmission = false) ∨
      (status = .known .failed ∧
        ∃ answer, callsOn a.session own = [.submitted a.session a.config answer]) := by
  cases h with
  | pending | unknown => exact .inl (by simp)
  | finished _ hrel =>
      refine .inl fun e he => ?_
      obtain ⟨hmem, hcall⟩ := mem_callsOn.mp he
      rcases List.mem_cons.mp hmem with rfl | hmem
      · cases hcall
      · exact hrel.not_isSubmission e hmem
  | resubmitted hsub =>
      cases hsub with
      | answered jobId => exact .inr ⟨rfl, .ok jobId, by simp⟩
      | @absorbed _ fault => exact .inr ⟨rfl, .error fault, by simp⟩
  | givenUp hsub hrel =>
      obtain ⟨rfl, hnone, -⟩ := hsub.spent_of_false
      rw [callsOn_append, hnone, List.nil_append]
      exact .inl fun e he => hrel.not_isSubmission e (mem_callsOn.mp he).1
  | @failed _ fault _ hsub =>
      cases hsub with
      | refused => exact .inl (by simp)
      | failed => exact .inr ⟨rfl, .error fault, by simp⟩

/-- The part of an attempt in a sweep keeps to the rule. -/
theorem Passes.retried {more : List Event} {why : Option Departure} (h : a.Passes more b why)
    (hjob : a.jobId = numberAfter calls) (hcalls : Retried a.session calls) :
    Retried a.session (calls ++ more) := by
  -- Asking adds nothing but a query.
  have hasked : ∀ {xs answer}, a.Asks xs answer →
      Retried a.session (calls ++ callsOn a.session xs) := fun hask =>
    hcalls.append fun e he => hask.not_isSubmission e (mem_callsOn.mp he).1
  cases h with
  | asked hask => exact hasked hask
  | settled hask hset =>
      rw [← List.append_assoc]
      rcases hset.submits with hquiet | ⟨rfl, answer, hsub⟩
      · exact (hasked hask).append hquiet
      · rw [hsub]
        refine (hasked hask).concat fun _ _ _ => .inr ?_
        rcases hask.seen hjob with ⟨-, hfailure⟩ | ⟨hne, -⟩
        · exact hfailure
        · exact absurd rfl hne

/-- **Who leaves in a sweep leaves for what was seen**: a finished status, or a failure with the
budget used up. -/
theorem Settles.leaves {status : PolledStatus} {first : Settlement} {why : Departure}
    (h : a.Settles status own first) (hwhy : first.departure = some why) :
    (why = .completed ∧ ∃ known, status = .known known ∧ known.isFinished = true) ∨
      (why = .abandoned ∧ status = .known .failed ∧ a.budget.used = a.budget.limit) := by
  cases h with
  | pending | resubmitted | failed | unknown => cases hwhy
  | @finished known _ _ _ hfin =>
      cases hwhy
      exact .inl ⟨rfl, known, rfl, hfin⟩
  | givenUp hsub =>
      cases hwhy
      exact .inr ⟨rfl, rfl, hsub.spent_of_false.2.2⟩

/-- A finished job leaves at its turn. -/
theorem Settles.of_finished {status : JobStatus} {first : Settlement}
    (h : a.Settles (.known status) own first) (hfin : status.isFinished = true) :
    first.departure = some .completed := by
  cases h with
  | pending hpending => cases status <;> cases hfin <;> cases hpending
  | finished => rfl
  | resubmitted | givenUp | failed => cases hfin

/-- A failed job whose budget is used up leaves at its turn. -/
theorem Settles.of_spent {first : Settlement} (h : a.Settles (.known .failed) own first)
    (hr : a.released = false) (hspent : a.budget.used = a.budget.limit) :
    first.departure = some .abandoned := by
  have hnone := a.budget.spend?_eq_none_iff.mpr hspent
  -- Nothing is granted any more.
  have hgranted : ∀ budget, a.budget.spend? ≠ some budget := by simp [hnone]
  cases h with
  | pending hpending => cases hpending
  | finished hfin => cases hfin
  | resubmitted hsub =>
      cases hsub with
      | answered _ _ hspend | absorbed _ hspend => exact absurd hspend (hgranted _)
  | givenUp => rfl
  | failed hsub =>
      cases hsub with
      | refused hr' =>
          rw [hr] at hr'
          cases hr'
      | failed _ hspend => exact absurd hspend (hgranted _)

end Attempt

/-! ## Runs without calls -/

namespace Pool

/-- The owner calls an attempt. -/
def Operation.isCall : Operation → Bool
  | .call _ _ => true
  | _ => false

/-- What happens to a pool whose attempts nobody calls: a move, or its end. -/
inductive Beat : Pool → List Event → Pool → Prop where
  /-- The pool moves. -/
  | move {p q : Pool} {events : List Event} : Move p events q → Beat p events q
  /-- The pool is closed. -/
  | close {p q : Pool} {events : List Event} {answer : Except Fault Unit} :
    Closes p events answer q → Beat p events q

/-- Any number of beats. -/
abbrev Beats : Pool → List Event → Pool → Prop :=
  Steps Beat

/-- Some sweep of the run has processed the status of the attempt with a session.  What it could
see are the calls on the session before the sweep, and the query that the sweep has made. -/
inductive Processed (limits : PoolLimits) (events : List Event) (p : Pool) (s : Session)
    (status : PolledStatus) (seen : List Event) : Prop where
  /-- The run before the sweep, the sweep, and the run behind it. -/
  | mk {a : Attempt} {before asked own sweep after : List Event} {first : Settlement}
      {p₁ p₂ : Pool} :
    a.session = s → events = before ++ sweep ++ after →
    Beats { limits } before p₁ → p₁.Processes a asked status own first sweep p₂ →
    Beats p₂ after p → seen = callsOn s before ++ callsOn s asked →
    Processed limits events p s status seen

/-- Who has left was taken out by a sweep, for what the sweep has seen, or when the pool was
closed. -/
def Explained (limits : PoolLimits) (events : List Event) (p : Pool) (x : Departed) : Prop :=
  match x.why with
  | .completed => ∃ status seen, JobStatus.isFinished status = true ∧
      Processed limits events p x.attempt.session (.known status) seen ∧
      AnswerSeen x.attempt.session (.ok (.known status)) seen
  | .abandoned => ∃ seen, Processed limits events p x.attempt.session (.known .failed) seen ∧
      FailureSeen x.attempt.session seen ∧
      seen.countP Event.isSubmission = limits.submissions
  | .closed => True

section Beats

variable {limits : PoolLimits} {p q : Pool} {before events : List Event} {passes : Nat}

theorem Moves.beats (h : Moves p events q) : Beats p events q := by
  induction h with
  | refl => exact .refl _
  | tail _ last ih => exact .tail ih (.move last)

theorem Performs.beats {o : Operation} (h : Performs passes p o events q)
    (ho : o.isCall = false) : Beats p events q := by
  cases h with
  | admitJob hadmit => exact hadmit.moves.beats
  | waitForSlot hwait => exact hwait.moves.beats
  | drain hdrain => exact hdrain.moves.beats
  | close hclose => exact .single (.close hclose)
  | leave _ hclose => exact .single (.close hclose)
  | call => cases ho

theorem PerformsAll.beats {ops : List Operation} (h : PerformsAll passes p ops events q)
    (hops : ∀ o ∈ ops, o.isCall = false) : Beats p events q := by
  induction h with
  | nil p => exact .refl p
  | cons hfirst _ ih =>
      rw [List.forall_mem_cons] at hops
      exact (hfirst.beats hops.1).trans (ih hops.2)

theorem Ledger.beat (l : Ledger before p) (h : Beat p events q)
    (hn : (openedIn (before ++ events)).Nodup) : Ledger (before ++ events) q := by
  cases h with
  | move hmove => exact l.move hmove hn
  | close hclose => exact l.closes hclose (nodup_openedIn_left hn)

theorem Beat.held (h : Beat p events q) (hn : (sessionsOf p.inFlight).Nodup) (hp : p.Held) :
    q.Held := by
  cases h with
  | move hmove => exact hmove.held hn hp
  | close hclose => exact hclose.held

/-- Who has left stays where it is. -/
theorem Beats.departed_prefix (h : Beats p events q) : p.departed <+: q.departed := by
  induction h with
  | refl => exact List.prefix_refl _
  | tail _ last ih =>
      refine ih.trans ?_
      cases last with
      | move hmove =>
          cases hmove with
          | sweep hsweep =>
              cases hsweep with
              | refused => exact List.prefix_refl _
              | settled => exact List.prefix_append _ _
          | place hplace => cases hplace <;> exact List.prefix_refl _
          | idle => exact List.prefix_refl _
      | close hclose =>
          cases hclose
          exact List.prefix_append _ _

/-- What was processed before was processed in the longer run. -/
theorem Processed.beat {s : Session} {status : PolledStatus} {seen more : List Event}
    (h : Processed limits events p s status seen) (hbeat : Beat p more q) :
    Processed limits (events ++ more) q s status seen := by
  obtain ⟨hs, rfl, hbefore, hat, hafter, hseen⟩ := h
  exact .mk hs (List.append_assoc _ _ _) hbefore hat (.tail hafter hbeat) hseen

theorem Explained.beat {x : Departed} {more : List Event} (h : Explained limits events p x)
    (hbeat : Beat p more q) : Explained limits (events ++ more) q x := by
  obtain ⟨why, a⟩ := x
  match why with
  | .completed =>
      obtain ⟨status, seen, hfin, hprocessed, hseen⟩ := h
      exact ⟨status, seen, hfin, hprocessed.beat hbeat, hseen⟩
  | .abandoned =>
      obtain ⟨seen, hprocessed, hrest⟩ := h
      exact ⟨seen, hprocessed.beat hbeat, hrest⟩
  | .closed => trivial

end Beats

/-! ## The invariant -/

section Invariant

variable {limits : PoolLimits} {p q : Pool} {before events : List Event}

/-- An attempt has the number of its latest submission. -/
theorem Ledger.jobId_eq (l : Ledger events p) {a : Attempt} (ha : a ∈ p.roster) :
    a.jobId = numberAfter (callsOn a.session events) := by
  obtain ⟨config, hcourse⟩ := l.course a ha
  exact Attempt.Course.jobId_eq hcourse

/-- The budget of an attempt has counted its submissions, and has the limit of the pool. -/
theorem Ledger.budget_eq (l : Ledger events p) {a : Attempt} (ha : a ∈ p.roster) :
    a.budget.used = (callsOn a.session events).countP Event.isSubmission ∧
      a.budget.limit = p.limits.submissions := by
  obtain ⟨config, hcourse⟩ := l.course a ha
  have hused : a.budget.used = 0 + _ := Attempt.Course.count_submissions hcourse
  exact ⟨by rw [hused, Nat.zero_add], (Attempt.Course.frame hcourse).2.2⟩

/-- A turn keeps to the rule if its parts do. -/
theorem Turn.retried {part : Attempt → List Event → Attempt → Option Departure → Prop}
    {gone : List Departed} (t : p.Turn part events gone q)
    (hcourse : ∀ a calls b why, part a calls b why → a.Course calls b)
    (hpart : ∀ a ∈ p.inFlight, ∀ calls b why, part a calls b why →
      Retried a.session (callsOn a.session before ++ calls))
    (h : ∀ s, Retried s (callsOn s before)) (s : Session) :
    Retried s (callsOn s (before ++ events)) := by
  rw [callsOn_append]
  by_cases hs : s ∈ sessionsOf p.inFlight
  · -- The attempt of the session is somewhere afterwards, and has done its part.
    obtain ⟨b, hb, rfl⟩ := mem_sessionsOf.mp (t.sessions.symm.subset hs)
    obtain ⟨a, ha, why, hpasses⟩ : ∃ a ∈ p.inFlight, ∃ why,
        part a (callsOn b.session events) b why := by
      rcases List.mem_append.mp hb with hb | hb
      · obtain ⟨a, ha, h⟩ := t.stays b hb
        exact ⟨a, ha, _, h⟩
      · obtain ⟨x, hx, rfl⟩ := List.mem_map.mp hb
        obtain ⟨a, ha, h⟩ := t.leaves x hx
        exact ⟨a, ha, _, h⟩
    have hretried := hpart a ha _ b why hpasses
    rwa [← (hcourse _ _ _ _ hpasses).session_eq] at hretried
  · rw [callsOn_eq_nil t.among hs, List.append_nil]
    exact h s

theorem Sweeps.retried (h : ∀ s, Retried s (callsOn s before)) (l : Ledger before p)
    (hn : (openedIn before).Nodup) {answer : Except Fault Nat} (hsweep : p.Sweeps events answer q)
    (s : Session) : Retried s (callsOn s (before ++ events)) := by
  obtain ⟨gone, t⟩ := hsweep.turn (l.nodup_inFlight hn)
  refine t.retried (fun _ _ _ _ => Attempt.Passes.course) ?_ h s
  intro a ha calls b why hpasses
  exact hpasses.retried (l.jobId_eq (List.mem_append_left _ ha)) (h a.session)

theorem Closes.retried (h : ∀ s, Retried s (callsOn s before)) (l : Ledger before p)
    (hn : (openedIn before).Nodup) {answer : Except Fault Unit} (hclose : p.Closes events answer q)
    (s : Session) : Retried s (callsOn s (before ++ events)) := by
  obtain ⟨gone, t, -⟩ := hclose.turn (l.nodup_inFlight hn)
  refine t.retried (fun _ _ _ _ hgo => hgo.part.1) ?_ h s
  rintro a - _ b _ ⟨hrel⟩
  exact (h a.session).append fun e he => hrel.not_isSubmission e (mem_callsOn.mp he).1

/-- The first submission on a session needs no reason. -/
theorem Places.retried (h : ∀ s, Retried s (callsOn s before)) (l : Ledger before p)
    (hn : (openedIn (before ++ events)).Nodup) {config : JobConfig}
    {answer : Except Fault Attempt} (hplace : Places config p events answer q) (s : Session) :
    Retried s (callsOn s (before ++ events)) := by
  rw [callsOn_append]
  rcases hplace.opens with ⟨session, fault, rfl, -, -⟩ |
      ⟨session, count, reply, more, a, rfl, hmore, -⟩
  · simpa using h s
  · have hquiet : callsOn s more = [] := by
      refine List.filter_eq_nil_iff.mpr fun e he => ?_
      obtain ⟨entry, rfl⟩ := hmore e he
      simp
    by_cases hs : session = s
    · subst hs
      rw [l.callsOn_eq_nil (not_mem_openedIn_of_nodup hn), List.nil_append]
      simpa [hquiet] using (Retried.nil session).concat fun _ _ _ => .inl rfl
    · simpa [hquiet, hs] using h s

theorem Beat.retried (h : ∀ s, Retried s (callsOn s before)) (l : Ledger before p)
    (hn : (openedIn (before ++ events)).Nodup) (hbeat : Beat p events q) (s : Session) :
    Retried s (callsOn s (before ++ events)) := by
  cases hbeat with
  | move hmove =>
      cases hmove with
      | sweep hsweep => exact hsweep.retried h l (nodup_openedIn_left hn) s
      | place hplace => exact hplace.retried h l hn s
      | idle hcall =>
          rw [callsOn_append]
          simpa [hcall] using h s
  | close hclose => exact hclose.retried h l (nodup_openedIn_left hn) s

/-- **A sweep explains whom it takes out**: it came to the turn of the attempt, which was seen
finished, or to have failed with all of its submissions made. -/
theorem Sweeps.explained (l : Ledger before p) (hn : (openedIn before).Nodup)
    (hbefore : Beats { limits } before p) (hlimits : p.limits = limits)
    {answer : Except Fault Nat} (hsweep : p.Sweeps events answer q) :
    ∃ gone, q.departed = p.departed ++ gone ∧
      ∀ x ∈ gone, Explained limits (before ++ events) q x := by
  obtain ⟨gone, t⟩ := hsweep.visits (l.nodup_inFlight hn)
  refine ⟨gone, t.departed, ?_⟩
  rintro ⟨why, b⟩ hx
  obtain ⟨a, ha, hvisit⟩ := t.leaves _ hx
  have hs : b.session = a.session := hvisit.passes.course.session_eq
  obtain ⟨xs, status, ys, first, hat, -, hwhy⟩ := hvisit.of_some
  have hroster : a ∈ p.roster := List.mem_append_left _ ha
  have hprocessed : Processed limits (before ++ events) q a.session status
      (callsOn a.session before ++ callsOn a.session xs) :=
    .mk rfl (List.append_nil _).symm hbefore hat (.refl q) rfl
  have hseen := hat.asks.seen (l.jobId_eq hroster)
  rcases hat.settles.leaves hwhy with ⟨rfl, known, rfl, hfin⟩ | ⟨rfl, rfl, hspent⟩
  · simp only [Explained, hs]
    refine ⟨known, _, hfin, hprocessed, ?_⟩
    rcases hseen with ⟨heq, -⟩ | ⟨-, hanswer⟩
    · cases heq
      cases hfin
    · exact hanswer
  · simp only [Explained, hs]
    refine ⟨_, hprocessed, ?_, ?_⟩
    · rcases hseen with ⟨-, hfailure⟩ | ⟨hne, -⟩
      · exact hfailure
      · exact absurd rfl hne
    · -- Asking submits nothing, so these are the submissions that the budget has counted.
      obtain ⟨hused, hlimit⟩ := l.budget_eq hroster
      rw [List.countP_append, hat.asks.count_submissions, Nat.add_zero, ← hused, hspent, hlimit,
        hlimits]

theorem Beat.explained (l : Ledger before p) (hn : (openedIn (before ++ events)).Nodup)
    (hbefore : Beats { limits } before p) (hlimits : p.limits = limits) (hbeat : Beat p events q)
    (h : ∀ x ∈ p.departed, Explained limits before p x) :
    ∀ x ∈ q.departed, Explained limits (before ++ events) q x := by
  have hn' := nodup_openedIn_left hn
  obtain ⟨gone, hgone, hnew⟩ : ∃ gone, q.departed = p.departed ++ gone ∧
      ∀ x ∈ gone, Explained limits (before ++ events) q x := by
    cases hbeat with
    | move hmove =>
        cases hmove with
        | sweep hsweep => exact hsweep.explained l hn' hbefore hlimits
        | place hplace => exact ⟨[], by cases hplace <;> simp, by simp⟩
        | idle => exact ⟨[], by simp, by simp⟩
    | close hclose =>
        obtain ⟨gone, t, -, -, hwhy⟩ := hclose.turn (l.nodup_inFlight hn')
        refine ⟨gone, t.departed, fun x hx => ?_⟩
        unfold Explained
        rw [hwhy x hx]
        trivial
  intro x hx
  rw [hgone] at hx
  rcases List.mem_append.mp hx with hx | hx
  · exact (h x hx).beat hbeat
  · exact hnew x hx

/-- What holds of a pool that is left to itself, after any beats. -/
structure Regular (limits : PoolLimits) (events : List Event) (p : Pool) : Prop where
  /-- The ledger is right. -/
  ledger : Ledger events p
  /-- Nothing is released in flight. -/
  held : p.Held
  /-- The limits are those that it began with. -/
  limits_eq : p.limits = limits
  /-- Submissions keep to the rule. -/
  retried : ∀ s, Retried s (callsOn s events)
  /-- Whoever has left left for a reason that was seen. -/
  explained : ∀ x ∈ p.departed, Explained limits events p x

theorem Beat.limits_eq (h : Beat p events q) : q.limits = p.limits := by
  cases h with
  | move hmove => exact Moves.limits_eq (.single hmove)
  | close hclose =>
      cases hclose
      rfl

/-- **Every beat keeps a pool regular.** -/
theorem Beats.regular (h : Beats { limits } events p) (hn : (openedIn events).Nodup) :
    Regular limits events p := by
  generalize hinitial : ({ limits } : Pool) = initial at h
  induction h with
  | refl =>
      subst hinitial
      refine ⟨.initial limits, ?_, rfl, fun s => .nil s, ?_⟩
      · rintro a ⟨⟩
      · rintro x ⟨⟩
  | tail run last ih =>
      obtain ⟨l, hheld, hlimits, hretried, hexplained⟩ := ih (nodup_openedIn_left hn)
      subst hinitial
      have hinFlight := l.nodup_inFlight (nodup_openedIn_left hn)
      exact ⟨l.beat last hn, last.held hinFlight hheld, last.limits_eq.trans hlimits,
        last.retried hretried l hn, last.explained l hn run hlimits hexplained⟩

/-! ## What a sweep has to do with what it has seen -/

/-- Who has left in the course of a run is counted in the end. -/
theorem Processes.mem_leftFor {a : Attempt} {asked own : List Event} {status : PolledStatus}
    {first : Settlement} {r : Pool} {after : List Event}
    (h : p.Processes a asked status own first events q) {why : Departure}
    (hwhy : first.departure = some why) (hafter : Beats q after r) :
    a.session ∈ r.leftFor why := by
  have hs : first.attempt.session = a.session := h.settles.lives.course.session_eq
  exact Pool.mem_leftFor.mpr
    ⟨_, hafter.departed_prefix.subset (h.departed hwhy), rfl, hs⟩

/-- A sweep that processes a finished status takes the attempt out as completed. -/
theorem Processed.completed {s : Session} {status : JobStatus} {seen : List Event}
    (h : Processed limits events p s (.known status) seen) (hfin : status.isFinished = true) :
    s ∈ p.leftFor .completed := by
  obtain ⟨rfl, -, -, hat, hafter, -⟩ := h
  exact hat.mem_leftFor (hat.settles.of_finished hfin) hafter

/-- A sweep that processes a failure when all submissions are made takes the attempt out as
abandoned. -/
theorem Processed.abandoned {s : Session} {seen : List Event}
    (h : Processed limits events p s (.known .failed) seen) (hn : (openedIn events).Nodup)
    (hcount : seen.countP Event.isSubmission = limits.submissions) :
    s ∈ p.leftFor .abandoned := by
  obtain ⟨rfl, rfl, hbefore, hat, hafter, rfl⟩ := h
  rename_i a before asked own sweep after first p₁ p₂
  have hregular := hbefore.regular (nodup_openedIn_left (nodup_openedIn_left hn))
  obtain ⟨hused, hlimit⟩ := hregular.ledger.budget_eq (List.mem_append_left _ hat.mem)
  rw [List.countP_append, hat.asks.count_submissions, Nat.add_zero, ← hused] at hcount
  refine hat.mem_leftFor (hat.settles.of_spent (hregular.held a hat.mem) ?_) hafter
  rw [hcount, hlimit, hregular.limits_eq]

theorem Regular.abandoned_iff (h : Regular limits events p) (hn : (openedIn events).Nodup)
    (s : Session) : s ∈ p.leftFor .abandoned ↔
      ∃ seen, Processed limits events p s (.known .failed) seen ∧ FailureSeen s seen ∧
        seen.countP Event.isSubmission = limits.submissions := by
  constructor
  · intro hs
    obtain ⟨⟨why, a⟩, hx, rfl, rfl⟩ := mem_leftFor.mp hs
    exact h.explained _ hx
  · rintro ⟨seen, hprocessed, -, hcount⟩
    exact hprocessed.abandoned hn hcount

theorem Regular.completed_iff (h : Regular limits events p) (s : Session) :
    s ∈ p.leftFor .completed ↔
      ∃ status seen, JobStatus.isFinished status = true ∧
        Processed limits events p s (.known status) seen ∧
        AnswerSeen s (.ok (.known status)) seen := by
  constructor
  · intro hs
    obtain ⟨⟨why, a⟩, hx, rfl, rfl⟩ := mem_leftFor.mp hs
    exact h.explained _ hx
  · rintro ⟨status, seen, hfin, hprocessed, -⟩
    exact hprocessed.completed hfin

/-- No job is submitted more often than the limit allows. -/
theorem Ledger.submissions_le (l : Ledger events p) (s : Session) :
    (callsOn s events).countP Event.isSubmission ≤ p.limits.submissions := by
  by_cases hs : s ∈ openedIn events
  · obtain ⟨a, ha, rfl⟩ := l.exists_of_opened hs
    obtain ⟨hused, hlimit⟩ := l.budget_eq ha
    rw [← hused, ← hlimit]
    exact a.budget.used_le
  · rw [l.callsOn_eq_nil hs]
    exact Nat.zero_le _

/-- **Retries are disciplined.**  Let a pool be made for `n` submissions of each job, and let
operations be performed on it that call none of its attempts, in any world and whatever they end
with.  Then, with one submission instead of `n` if `n` is not positive:

* on each session there are at most `n` submissions;
* each of them but the first comes right behind a failure of the one before, so a job that was just
  seen in a status other than `failed` is not submitted again;
* the jobs counted as abandoned are those for which a sweep has processed a failure of their `n`-th
  submission;
* the jobs counted as completed are those for which a sweep has processed a finished status, which
  the query of their latest number had just been answered with;
* no job is counted twice. -/
theorem retries_are_disciplined {ω : Type} (w : World ω) (passes : Nat) (limits : PoolLimits)
    (capacity n statusChecks : Int) (interval : Float)
    (hlimits : PoolLimits.ofRequest? capacity n interval statusChecks = .ok limits)
    (ops : List Operation) (hops : ∀ o ∈ ops, o.isCall = false) (d : Desk ω) :
    let p := (run w passes limits ops d).1
    let events := (run w passes limits ops d).2
    let most := (max 1 n).toNat
    (∀ s, (callsOn s events).countP Event.isSubmission ≤ most) ∧
    (∀ s before config answer, before ++ [.submitted s config answer] <+: callsOn s events →
      before = [] ∨ (FailureSeen s before ∧
        ∀ status, AnswerSeen s (.ok status) before → status = .known .failed)) ∧
    (∀ s, s ∈ p.leftFor .abandoned ↔
      ∃ seen, Processed limits events p s (.known .failed) seen ∧ FailureSeen s seen ∧
        seen.countP Event.isSubmission = most) ∧
    (∀ s, s ∈ p.leftFor .completed ↔
      ∃ status seen, JobStatus.isFinished status = true ∧
        Processed limits events p s (.known status) seen ∧
        AnswerSeen s (.ok (.known status)) seen) ∧
    p.completed = (p.leftFor .completed).length ∧ p.abandoned = (p.leftFor .abandoned).length ∧
    (p.leftFor .completed ++ p.leftFor .abandoned).Nodup := by
  intro p events most
  obtain ⟨hperforms, hn⟩ := run_performs w passes limits ops d
  have h : Regular limits events p := (hperforms.beats hops).regular hn
  have hconserved := h.ledger.conserved hn
  have hmost : limits.submissions = most := submissions_eq_of_request hlimits
  rw [← hmost]
  refine ⟨?_, ?_, h.abandoned_iff hn, h.completed_iff, hconserved.completed, hconserved.abandoned,
    ?_⟩
  · intro s
    have hle := h.ledger.submissions_le s
    rwa [h.limits_eq] at hle
  · intro s before config answer hprefix
    refine (h.retried s before config answer hprefix).imp_right fun hfailure => ?_
    exact ⟨hfailure, fun status => hfailure.status_eq⟩
  · -- Both are among the four classes of the sessions, which are opened once each.
    have hnodup := hconserved.classes.nodup_iff.mpr hn
    have hleft := hnodup.of_append_right
    rw [← List.append_assoc] at hleft
    exact hleft.of_append_left

/-- A job that fails once and is then completed, and one that always fails. -/
def flakyJobs : Rehearsal.Services where
  jobs := { polls := [("/a", [.status "FAILED", .status "COMPLETED"]), ("/b", [.status "FAILED"])] }

/-- Both jobs are admitted, and the owner waits for them. -/
def flakyRun : List Operation :=
  [.admitJob { path := "/a" }, .admitJob { path := "/b" }, .drain]

/-- Room for two jobs, with two submissions each and one status query at a time. -/
def flakyLimits : PoolLimits where
  capacity := 2
  submissions := 2
  pollInterval := PoolLimits.clampInterval 0.0
  statusChecks := 1
  capacity_pos := Nat.two_pos
  submissions_pos := Nat.two_pos
  statusChecks_pos := Nat.one_pos

/-- Of the two jobs of `flakyJobs` the second is abandoned, so a sweep has processed the failure of
its last submission. -/
theorem retries_are_disciplined_at_flaky_jobs :
    PoolLimits.ofRequest? 2 2 0.0 1 = .ok flakyLimits ∧
    (∀ o ∈ flakyRun, o.isCall = false) ∧
    ∃ seen,
      Processed flakyLimits
        (run Rehearsal.Services.world 9 flakyLimits flakyRun { world := flakyJobs }).2
        (run Rehearsal.Services.world 9 flakyLimits flakyRun { world := flakyJobs }).1 ⟨2⟩
        (.known .failed) seen ∧
      FailureSeen ⟨2⟩ seen ∧ seen.countP Event.isSubmission = 2 := by
  have hops : ∀ o ∈ flakyRun, o.isCall = false := by decide
  obtain ⟨-, -, habandoned, -⟩ := retries_are_disciplined Rehearsal.Services.world 9 flakyLimits
    2 2 1 0.0 rfl flakyRun hops { world := flakyJobs }
  have hleft : (run Rehearsal.Services.world 9 flakyLimits flakyRun
      { world := flakyJobs }).1.leftFor .abandoned = [⟨2⟩] := by
    decide +kernel
  refine ⟨rfl, hops, (habandoned ⟨2⟩).mp ?_⟩
  rw [hleft]
  exact List.mem_cons_self

end Invariant

end Pool

end LoadDispatch
