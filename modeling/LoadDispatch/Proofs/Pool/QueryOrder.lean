import LoadDispatch.Proofs.Pool.Interleaving

/-!
# The order of the queries

What each attempt is answered in a pass settles the whole pass, in whatever order the queries were
put and answered (`PassRun.unique`).  The pass of `Pool.sweep`, which asks about one attempt after
the other, is one of them (`exists_passRun_of_sweep`), so all others end as it does.
-/

namespace LoadDispatch

/-! ## Given replies -/

/-- What the service replies to an attempt in a pass.  There is one call of each kind at most. -/
structure Replies where
  /-- The reply to a query. -/
  poll : Except Fault PolledStatus
  /-- The reply to a submission. -/
  submit : Except Fault (Option Int)
  /-- The reply to a closing. -/
  close : Except Fault Unit

/-- Whether an event of settling shows the replies. -/
def Replies.Show (r : Replies) : Event → Prop
  | .submitted _ _ reply => r.submit = reply
  | .closed _ reply => r.close = reply
  | _ => True

/-- Whether an event of a pass shows the replies to the attempt at its place. -/
def PassEvent.Shows (given : Nat → Replies) : PassEvent → Prop
  | asked .. => True
  | answered place reply => (given place).poll = reply
  | settled place e => (given place).Show e

section Given

variable {r : Replies} {a b c : Attempt} {xs ys : List Event} {status : PolledStatus}

theorem Attempt.Submits.unique {answer answer' : Except Fault Bool} (h : a.Submits xs answer b)
    (h' : a.Submits ys answer' c) (hxs : ∀ e ∈ xs, r.Show e) (hys : ∀ e ∈ ys, r.Show e) :
    xs = ys ∧ answer = answer' ∧ b = c := by
  cases h <;> cases h' <;> simp_all [Replies.Show]

theorem Attempt.Releases.unique {answer answer' : Except Fault Unit} (h : a.Releases xs answer b)
    (h' : a.Releases ys answer' c) (hxs : ∀ e ∈ xs, r.Show e) (hys : ∀ e ∈ ys, r.Show e) :
    xs = ys ∧ answer = answer' ∧ b = c := by
  cases h <;> cases h' <;> simp_all [Replies.Show]

theorem Attempt.Resolves.unique {answer : Except Fault Bool} {first next : Settlement}
    (h : b.Resolves answer xs first) (h' : b.Resolves answer ys next) (hxs : ∀ e ∈ xs, r.Show e)
    (hys : ∀ e ∈ ys, r.Show e) : xs = ys ∧ first = next := by
  cases h with
  | resubmitted => cases h'; exact ⟨rfl, rfl⟩
  | givenUp hrelease =>
      cases h' with
      | givenUp hrelease' =>
          obtain ⟨rfl, rfl, rfl⟩ := hrelease.unique hrelease' hxs hys
          exact ⟨rfl, rfl⟩
  | failed => cases h'; exact ⟨rfl, rfl⟩

/-- The replies settle what becomes of a status. -/
theorem Attempt.Settles.unique {first next : Settlement} (h : a.Settles status xs first)
    (h' : a.Settles status ys next) (hxs : ∀ e ∈ xs, r.Show e) (hys : ∀ e ∈ ys, r.Show e) :
    xs = ys ∧ first = next := by
  match status with
  | .unknown text =>
      cases h
      cases h'
      exact ⟨rfl, rfl⟩
  | .known .failed =>
      obtain ⟨xs₁, xs₂, answer, b, rfl, hsubmit, hresolve⟩ := h.resolves
      obtain ⟨ys₁, ys₂, answer', c, rfl, hsubmit', hresolve'⟩ := h'.resolves
      rw [List.forall_mem_append] at hxs hys
      obtain ⟨rfl, rfl, rfl⟩ := hsubmit.unique hsubmit' hxs.1 hys.1
      obtain ⟨rfl, rfl⟩ := hresolve.unique hresolve' hxs.2 hys.2
      exact ⟨rfl, rfl⟩
  | .known .created | .known .running =>
      obtain ⟨rfl, rfl⟩ := h.of_pending rfl
      obtain ⟨rfl, rfl⟩ := h'.of_pending rfl
      exact ⟨rfl, rfl⟩
  | .known .completed | .known .canceled =>
      cases h with
      | pending hpending => cases hpending
      | finished _ hrelease =>
          cases h' with
          | pending hpending => cases hpending
          | finished _ hrelease' =>
              rw [List.forall_mem_cons] at hxs hys
              obtain ⟨rfl, rfl, rfl⟩ := hrelease.unique hrelease' hxs.2 hys.2
              exact ⟨rfl, rfl⟩

end Given

section Unique

variable {p q q' : Pool} {given : Nat → Replies} {seen seen' xs ys : List PassEvent}
  {answer answer' : Except Fault Nat} {answers answers' : List (Except Fault PolledStatus)}

/-- The replies settle what a check is answered. -/
theorem Attempt.Checked.unique {a : Attempt} {place : Nat}
    {answer answer' : Except Fault PolledStatus} (h : a.Checked place xs answer)
    (h' : a.Checked place ys answer') (hxs : ∀ e ∈ xs, e.Shows given)
    (hys : ∀ e ∈ ys, e.Shows given) : answer = answer' := by
  cases h <;> cases h' <;> simp_all [PassEvent.Shows]

theorem Gathered.unique (h : Gathered p seen answers) (h' : Gathered p seen' answers')
    (hxs : ∀ e ∈ seen, e.Shows given) (hys : ∀ e ∈ seen', e.Shows given) : answers = answers' := by
  refine List.ext_getElem? fun i => ?_
  match ha : p.inFlight[i]? with
  | none =>
      have hi : p.inFlight.length ≤ i := List.getElem?_eq_none_iff.mp ha
      rw [List.getElem?_eq_none (h.length_eq.trans_le hi),
        List.getElem?_eq_none (h'.length_eq.trans_le hi)]
  | some a =>
      obtain ⟨answer, hat, hchecked⟩ := h.checked i a ha
      obtain ⟨answer', hat', hchecked'⟩ := h'.checked i a ha
      rw [hat, hat', hchecked.unique hchecked' (fun e he => hxs e (List.mem_of_mem_filter he))
        fun e he => hys e (List.mem_of_mem_filter he)]

theorem Replies.show_of_shows {place : Nat} {events : List Event}
    (h : ∀ e ∈ events.map (PassEvent.settled place), e.Shows given) :
    ∀ e ∈ events, (given place).Show e :=
  fun _ he => h _ (List.mem_map_of_mem he)

/-- **Settling goes one way.** -/
theorem settling_unique {front : Sweep} {place : Nat} {rest : List (Attempt × PolledStatus)}
    (h : Steps (PassStep p) (.settling front place rest) xs (.over answer q))
    (h' : Steps (PassStep p) (.settling front place rest) ys (.over answer' q'))
    (hxs : ∀ e ∈ xs, e.Shows given) (hys : ∀ e ∈ ys, e.Shows given) :
    xs = ys ∧ answer = answer' ∧ q = q' := by
  induction rest generalizing front place xs ys with
  | nil =>
      obtain ⟨-, h⟩ | ⟨_, _, _, rfl, hstep, hrun⟩ := h.cases_head
      · cases h
      obtain ⟨-, h'⟩ | ⟨_, _, _, rfl, hstep', hrun'⟩ := h'.cases_head
      · cases h'
      cases hstep
      cases hstep'
      obtain ⟨rfl, hover⟩ := hrun.of_over
      obtain ⟨rfl, hover'⟩ := hrun'.of_over
      cases hover
      cases hover'
      exact ⟨rfl, rfl, rfl⟩
  | cons pair rest ih =>
      obtain ⟨-, h⟩ | ⟨_, _, _, rfl, hstep, hrun⟩ := h.cases_head
      · cases h
      obtain ⟨-, h'⟩ | ⟨_, _, _, rfl, hstep', hrun'⟩ := h'.cases_head
      · cases h'
      rw [List.forall_mem_append] at hxs hys
      cases hstep with
      | settle hsettle hfault =>
          cases hstep' with
          | settle hsettle' =>
              obtain ⟨rfl, rfl⟩ := hsettle.unique hsettle' (Replies.show_of_shows hxs.1)
                (Replies.show_of_shows hys.1)
              obtain ⟨rfl, rfl, rfl⟩ := ih hrun hrun' hxs.2 hys.2
              exact ⟨rfl, rfl, rfl⟩
          | breakOff hsettle' hfault' =>
              obtain ⟨-, rfl⟩ := hsettle.unique hsettle' (Replies.show_of_shows hxs.1)
                (Replies.show_of_shows hys.1)
              rw [hfault] at hfault'
              cases hfault'
      | breakOff hsettle hfault =>
          cases hstep' with
          | settle hsettle' hfault' =>
              obtain ⟨-, rfl⟩ := hsettle.unique hsettle' (Replies.show_of_shows hxs.1)
                (Replies.show_of_shows hys.1)
              rw [hfault] at hfault'
              cases hfault'
          | breakOff hsettle' hfault' =>
              obtain ⟨rfl, rfl⟩ := hsettle.unique hsettle' (Replies.show_of_shows hxs.1)
                (Replies.show_of_shows hys.1)
              rw [hfault] at hfault'
              cases hfault'
              obtain ⟨rfl, hover⟩ := hrun.of_over
              obtain ⟨rfl, hover'⟩ := hrun'.of_over
              cases hover
              cases hover'
              exact ⟨rfl, rfl, rfl⟩

theorem filterMap_settled?_of_unsettled (h : ∀ e ∈ xs, e.settled? = none) :
    xs.filterMap (·.settled?) = [] :=
  List.filterMap_eq_nil_iff.mpr h

/-- **The replies settle a whole pass**, whatever the order of the queries. -/
theorem PassRun.unique (h : PassRun p seen (.over answer q))
    (h' : PassRun p seen' (.over answer' q')) (hseen : ∀ e ∈ seen, e.Shows given)
    (hseen' : ∀ e ∈ seen', e.Shows given) :
    answer = answer' ∧ q = q' ∧
      seen.filterMap (·.settled?) = seen'.filterMap (·.settled?) := by
  have hreached := h.reached
  have hreached' := h'.reached
  generalize hover : PassState.over answer q = state at hreached
  generalize hover' : PassState.over answer' q' = state' at hreached'
  cases hreached with
  | checking => cases hover
  | refused hgathered hfault =>
      cases hover
      cases hreached' with
      | checking => cases hover'
      | refused hgathered' hfault' =>
          cases hover'
          obtain rfl := hgathered.unique hgathered' hseen hseen'
          rw [hfault] at hfault'
          cases hfault'
          rw [filterMap_settled?_of_unsettled hgathered.unsettled,
            filterMap_settled?_of_unsettled hgathered'.unsettled]
          exact ⟨rfl, rfl, rfl⟩
      | settling hgathered' hstatuses =>
          rw [List.forall_mem_append] at hseen'
          obtain rfl := hgathered.unique hgathered' hseen hseen'.1
          rw [hfault] at hstatuses
          cases hstatuses
  | settling hgathered hstatuses hrun =>
      cases hover
      rw [List.forall_mem_append] at hseen
      cases hreached' with
      | checking => cases hover'
      | refused hgathered' hfault =>
          obtain rfl := hgathered.unique hgathered' hseen.1 hseen'
          rw [hfault] at hstatuses
          cases hstatuses
      | settling hgathered' hstatuses' hrun' =>
          cases hover'
          rw [List.forall_mem_append] at hseen'
          obtain rfl := hgathered.unique hgathered' hseen.1 hseen'.1
          rw [hstatuses] at hstatuses'
          cases hstatuses'
          obtain ⟨rfl, rfl, rfl⟩ := settling_unique hrun hrun' hseen.2 hseen'.2
          rw [List.filterMap_append, List.filterMap_append,
            filterMap_settled?_of_unsettled hgathered.unsettled,
            filterMap_settled?_of_unsettled hgathered'.unsettled]
          exact ⟨rfl, rfl, rfl⟩

end Unique

/-! ## The pass of a sweep -/

/-- The call that an event of a pass shows, given the attempts in flight. -/
def PassEvent.call? (as : List Attempt) : PassEvent → Option Event
  | asked .. => none
  | answered place reply =>
    as[place]?.bind fun a => a.jobId.map fun job => .polled a.session job reply
  | settled _ e => if e.callOn?.isSome then some e else none

section Sequential

variable {p : Pool} {as : List Attempt} {events polls : List Event}
  {answers : List (Except Fault PolledStatus)}

/-- With no query in progress an attempt can be asked, and its query can end before any other
begins. -/
theorem Attempt.Asks.passRun {a : Attempt} {own : List Event} {answer : Except Fault PolledStatus}
    (h : a.Asks own answer) {done behind : List StatusCheck}
    (hplace : p.inFlight[done.length]? = some a)
    (hnone : Checks.inProgress (done ++ ⟨a, .waiting⟩ :: behind) = 0) :
    ∃ seen, Steps (PassStep p) (.checking (done ++ ⟨a, .waiting⟩ :: behind)) seen
        (.checking (done ++ ⟨a, .ended answer⟩ :: behind)) ∧
      seen.filterMap (·.call? p.inFlight) = own.filter (·.callOn?.isSome) := by
  have hroom : Checks.inProgress (done ++ ⟨a, .waiting⟩ :: behind) < p.limits.statusChecks := by
    rw [hnone]
    exact p.limits.statusChecks_pos
  rw [filter_callOn?_eq_callsOn h.lives.own]
  obtain ⟨hunasked, hcalls, rfl⟩ | ⟨job, reply, hsome, hcalls, rfl⟩ := h.query
  · exact ⟨_, .single (.check (.mk _ _ (.skip hunasked hroom))), by rw [hcalls]; rfl⟩
  · refine ⟨_, .trans (.single (.check (.mk _ _ (.ask hsome hroom))))
      (.single (.check (.mk _ _ (.answer reply)))), ?_⟩
    rw [hcalls]
    simp [PassEvent.ofSign, PassEvent.call?, hplace, (Attempt.asksFor_eq_some hsome).2]

/-- Asking one after the other is a run of the checks. -/
theorem AsksAll.passRun (h : AsksAll as polls answers) {done : List StatusCheck}
    (hplaces : done.map (·.attempt) ++ as = p.inFlight) (hdone : Checks.inProgress done = 0) :
    ∃ seen last, Steps (PassStep p) (.checking (done ++ Checks.initial as)) seen
        (.checking (done ++ last)) ∧ Checks.answers? last = some answers ∧
      seen.filterMap (·.call? p.inFlight) = polls.filter (·.callOn?.isSome) := by
  induction h generalizing done with
  | nil => exact ⟨[], [], .refl _, rfl, rfl⟩
  | @cons a rest xs ys answer answers hask _ ih =>
      have hplace : p.inFlight[done.length]? = some a := by
        rw [← hplaces, List.getElem?_append_right (by simp)]
        simp
      have hnone : Checks.inProgress (done ++ ⟨a, .waiting⟩ :: Checks.initial rest) = 0 := by
        rw [inProgress_middle, hdone, inProgress_initial]
        rfl
      have hended : Checks.inProgress (done ++ [⟨a, .ended answer⟩]) = 0 := by
        rw [inProgress_middle, hdone]
        rfl
      obtain ⟨seen, hfirst, hcalls⟩ := hask.passRun hplace hnone
      obtain ⟨more, last, hrest, hanswers, hmore⟩ := ih (by simpa using hplaces) hended
      rw [List.append_assoc, List.append_assoc] at hrest
      refine ⟨seen ++ more, ⟨a, .ended answer⟩ :: last, hfirst.trans hrest, ?_, ?_⟩
      · rw [Checks.answers?, List.mapM_cons, show last.mapM (·.answer?) = _ from hanswers]
        rfl
      · rw [List.filterMap_append, List.filter_append, hcalls, hmore]

theorem filterMap_call?_settled (place : Nat) (own : List Event) :
    (own.map (PassEvent.settled place)).filterMap (·.call? as) =
      own.filter (·.callOn?.isSome) := by
  rw [List.filterMap_map, ← List.filterMap_eq_filter]
  rfl

theorem Sweep.append_cons (first : Settlement) (front s : Sweep) :
    (front.append (.cons first {})).append s = front.append (.cons first s) := by
  unfold Sweep.append Sweep.cons
  cases first.departure <;> simp

/-- What settling has left to do is a run. -/
theorem SettlesAll.passRun {pairs : List (Attempt × PolledStatus)} {s : Sweep}
    (h : SettlesAll pairs events s) (p : Pool) (as : List Attempt) (front : Sweep) (place : Nat) :
    ∃ seen, Steps (PassStep p) (.settling front place pairs) seen
        (.over (front.append s).answer (p.applySweep (front.append s))) ∧
      seen.filterMap (·.call? as) = events.filter (·.callOn?.isSome) := by
  induction h generalizing front place with
  | nil =>
      have hanswer : (front.append {}).answer = .ok front.gone.length := by
        simp [Sweep.answer, Sweep.append]
      have hpool : p.applySweep (front.append {}) = p.applySweep front := by
        simp [Pool.applySweep, Sweep.append, Sweep.count]
      rw [hanswer, hpool]
      exact ⟨[], .single .finish, rfl⟩
  | @cons a status rest xs ys first s hsettle hfault _ ih =>
      obtain ⟨seen, hrun, hcalls⟩ := ih (front.append (.cons first {})) (place + 1)
      rw [Sweep.append_cons] at hrun
      refine ⟨_, .trans (.single (.settle hsettle hfault)) hrun, ?_⟩
      rw [List.filterMap_append, List.filter_append, filterMap_call?_settled, hcalls]
  | @broken a status rest xs first fault hsettle hfault =>
      have hanswer : (front.append (.cons first (.broken (rest.map Prod.fst) fault))).answer =
          .error fault := by
        refine Sweep.answer_of_fault ?_
        rw [Sweep.append, Sweep.fault_cons]
        rfl
      rw [hanswer]
      exact ⟨_, .single (.breakOff hsettle hfault), filterMap_call?_settled place xs⟩

/-- **A sweep is a pass** whose queries come one after the other, with the same calls. -/
theorem exists_passRun_of_sweep {q : Pool} {answer : Except Fault Nat}
    (h : p.Sweeps events answer q) :
    ∃ seen, PassRun p seen (.over answer q) ∧
      seen.filterMap (·.call? p.inFlight) = events.filter (·.callOn?.isSome) := by
  have hplaces : ([] : List StatusCheck).map (·.attempt) ++ p.inFlight = p.inFlight := rfl
  cases h with
  | refused hask hfault =>
      obtain ⟨seen, last, hrun, hanswers, hcalls⟩ := hask.passRun hplaces rfl
      refine ⟨_, .tail hrun (.refuse hanswers hfault), ?_⟩
      rw [List.append_nil, hcalls]
      simp
  | @settled _ settling statuses s hask hsettle =>
      obtain ⟨seen, last, hrun, hanswers, hcalls⟩ := hask.passRun hplaces rfl
      obtain ⟨more, hmore, hcalls'⟩ := hsettle.passRun p p.inFlight {} 0
      refine ⟨_, Steps.trans (.tail hrun (.goOn hanswers (collect_map_ok statuses))) hmore, ?_⟩
      rw [List.append_nil, List.filterMap_append, hcalls, hcalls']
      simp

end Sequential

/-! ## Whatever the order -/

section AtMostOnce

variable {p : Pool} {seen : List PassEvent} {state : PassState} {place : Nat}

/-- There is one query at most, and it is answered once at most. -/
def AtMostOnce (place : Nat) (queries : List PassEvent) : Prop :=
  ∃ job reply, queries <+: [.asked place job, .answered place reply]

theorem AtMostOnce.nil (place : Nat) : AtMostOnce place [] :=
  ⟨0, .ok (.known .failed), List.nil_prefix⟩

theorem Attempt.Checked.atMostOnce {a : Attempt} {queries : List PassEvent}
    {answer : Except Fault PolledStatus} (h : a.Checked place queries answer) :
    AtMostOnce place queries := by
  cases h with
  | asked reply => exact ⟨_, reply, List.prefix_rfl⟩
  | failed | refused => exact .nil place

theorem Checking.atMostOnce {checks : List StatusCheck} (h : Checking p seen checks)
    (place : Nat) : AtMostOnce place (queriesAt place seen) := by
  match hc : checks[place]? with
  | none =>
      rw [h.others place]
      · exact .nil place
      · rw [← h.attempts, List.length_map]
        exact List.getElem?_eq_none_iff.mp hc
  | some ⟨a, state⟩ =>
      have hshown := h.shown place _ hc
      cases state with
      | waiting => exact (show queriesAt place seen = [] from hshown) ▸ .nil place
      | asking =>
          obtain ⟨job, -, hasking⟩ := hshown
          rw [hasking]
          exact ⟨job, .ok (.known .failed), List.prefix_append [_] [_]⟩
      | ended answer => exact Attempt.Checked.atMostOnce hshown

theorem Gathered.atMostOnce {answers : List (Except Fault PolledStatus)}
    (h : Gathered p seen answers) (place : Nat) : AtMostOnce place (queriesAt place seen) := by
  match ha : p.inFlight[place]? with
  | none =>
      rw [h.others place (List.getElem?_eq_none_iff.mp ha)]
      exact .nil place
  | some a =>
      obtain ⟨_, -, hchecked⟩ := h.checked place a ha
      exact hchecked.atMostOnce

theorem queriesAt_eq_nil_of_settling {settling : List PassEvent}
    (h : ∀ e ∈ settling, e.query? = none) (place : Nat) : queriesAt place settling = [] :=
  List.filter_eq_nil_iff.mpr fun e he => by simp [h e he]

theorem PassRun.atMostOnce (h : PassRun p seen state) (place : Nat) :
    AtMostOnce place (queriesAt place seen) := by
  cases h.reached with
  | checking hchecking => exact hchecking.atMostOnce place
  | refused hgathered => exact hgathered.atMostOnce place
  | settling hgathered _ _ hquiet =>
      rw [queriesAt_append, queriesAt_eq_nil_of_settling hquiet, List.append_nil]
      exact hgathered.atMostOnce place

end AtMostOnce

/-- How a pass goes on once all checks have ended. -/
inductive GoesOn (p : Pool) (answers : List (Except Fault PolledStatus)) :
    List PassEvent → PassState → Prop where
  /-- It ends with the fault of the first attempt whose check has failed. -/
  | refused {fault : Fault} : answers.findSome? fault? = some fault →
    GoesOn p answers [] (.over (.error fault) p)
  /-- It settles the statuses, in the order of the attempts. -/
  | settling {statuses : List PolledStatus} {settling : List PassEvent} {state : PassState} :
    answers = statuses.map .ok →
    Steps (PassStep p) (.settling {} 0 (p.inFlight.zip statuses)) settling state →
    GoesOn p answers settling state

section Order

variable {p : Pool} {seen asking settling before after : List PassEvent} {state : PassState}
  {place : Nat} {e : Event}

theorem countP_eq_zero_of_settling {f : PassEvent → Bool}
    (hf : ∀ e, f e = true → e.query? ≠ none) (h : ∀ e ∈ settling, e.query? = none) :
    settling.countP f = 0 :=
  List.countP_eq_zero.mpr fun e he hfe => hf e hfe (h e he)

theorem query?_ne_none_of_isAsked (e : PassEvent) (h : e.isAsked = true) : e.query? ≠ none := by
  cases e with
  | asked => exact Option.some_ne_none _
  | answered | settled => cases h

theorem query?_ne_none_of_isAnswered (e : PassEvent) (h : e.isAnswered = true) :
    e.query? ≠ none := by
  cases e with
  | answered => exact Option.some_ne_none _
  | asked | settled => cases h

/-- A pass that has left the checks behind did so with an answer for everyone. -/
theorem PassRun.gathered (h : PassRun p seen state) (hstate : state.isChecking = false) :
    ∃ asking settling answers, seen = asking ++ settling ∧ Gathered p asking answers ∧
      (∀ e ∈ settling, e.query? = none) ∧ GoesOn p answers settling state := by
  cases h.reached with
  | checking => cases hstate
  | refused hgathered hfault =>
      exact ⟨seen, [], _, (List.append_nil _).symm, hgathered, by simp,
        .refused (collect_eq_error_iff.mp hfault)⟩
  | settling hgathered hstatuses hrun hquiet =>
      exact ⟨_, _, _, rfl, hgathered, hquiet, .settling (eq_map_of_collect hstatuses) hrun⟩

/-- The queries in progress are those that have begun and not ended. -/
theorem PassRun.balance (h : PassRun p seen state) :
    seen.countP (·.isAsked) = seen.countP (·.isAnswered) + state.inProgress := by
  cases hstate : state.isChecking with
  | true =>
      cases h.reached with
      | checking hchecking => exact hchecking.balance
      | refused => cases hstate
      | settling _ _ _ _ hnot => rw [hnot] at hstate; cases hstate
  | false =>
      obtain ⟨asking, settling, answers, rfl, hgathered, hquiet, -⟩ := h.gathered hstate
      rw [inProgress_eq_zero_of_not_checking hstate, List.countP_append, List.countP_append,
        hgathered.balance, countP_eq_zero_of_settling query?_ne_none_of_isAsked hquiet,
        countP_eq_zero_of_settling query?_ne_none_of_isAnswered hquiet]

theorem PassRun.inProgress_le (h : PassRun p seen state) :
    state.inProgress ≤ p.limits.statusChecks := by
  cases h.reached with
  | checking hchecking => exact hchecking.room
  | refused => exact Nat.zero_le _
  | settling _ _ _ _ hnot =>
      rw [inProgress_eq_zero_of_not_checking hnot]
      exact Nat.zero_le _

/-- Nobody is settled while the pass is checking. -/
theorem Reached.not_checking (h : Reached p seen state) (he : .settled place e ∈ seen) :
    state.isChecking = false := by
  cases h with
  | checking hchecking => cases hchecking.unsettled _ he
  | refused => rfl
  | settling _ _ _ _ hnot => exact hnot

/-- **While anyone is settled no query is in progress**: those that have begun have all ended. -/
theorem PassRun.settled_after_queries (h : PassRun p (before ++ .settled place e :: after) state) :
    before.countP (·.isAsked) = before.countP (·.isAnswered) := by
  have hmem : .settled place e ∈ before ++ .settled place e :: after := List.mem_append_cons_self
  have hstate : state.isChecking = false := h.reached.not_checking hmem
  obtain ⟨asking, settling, answers, hseen, hgathered, hquiet, -⟩ := h.gathered hstate
  have hfront : ∃ front, before = asking ++ front ∧ ∀ e ∈ front, e.query? = none := by
    obtain ⟨front, rfl, rfl⟩ | ⟨more, rfl, hmore⟩ := List.append_eq_append_iff.mp hseen.symm
    · exact ⟨front, rfl, fun e he => hquiet e (List.mem_append_left _ he)⟩
    · cases more with
      | nil => exact ⟨[], by simp, by simp⟩
      | cons first more =>
          obtain ⟨rfl, -⟩ := List.cons.inj hmore
          have hunsettled := hgathered.unsettled (.settled place e) (by simp)
          cases hunsettled
  obtain ⟨front, rfl, hfront⟩ := hfront
  rw [List.countP_append, List.countP_append, hgathered.balance,
    countP_eq_zero_of_settling query?_ne_none_of_isAsked hfront,
    countP_eq_zero_of_settling query?_ne_none_of_isAnswered hfront]

end Order

namespace Pool

/-- **The order of the queries does not matter.**  Let a pool be made for `n` status queries at
once, and take any pass over any attempts in flight.

* At every moment the queries in progress, which are those that have begun and not ended, are at
  most `n`, or one if `n` is not positive; about each attempt there is one query at most.  While
  anyone is settled none is in progress.
* When the pass leaves the checks behind, none is in progress, and there is an answer for each
  attempt at its place (`Gathered`): one that is open and has a number was asked about once, one
  that is open and has none counts as failed and was not, and one that is released refuses and was
  not.  The pass ends with the first fault among the answers, or settles them in order.
* Two passes with the same replies to each attempt end with the same answer and the same pool, and
  settle by the same events.
* The sweep of the pool, in any world, is such a pass with the same calls. -/
theorem query_order_does_not_matter (p : Pool) (capacity submissions n : Int) (interval : Float)
    (hlimits : PoolLimits.ofRequest? capacity submissions interval n = .ok p.limits) :
    (∀ seen state, PassRun p seen state →
      state.inProgress ≤ (max 1 n).toNat ∧
      seen.countP (·.isAsked) = seen.countP (·.isAnswered) + state.inProgress ∧
      (∀ place, AtMostOnce place (queriesAt place seen)) ∧
      (∀ before place e after, seen = before ++ .settled place e :: after →
        before.countP (·.isAsked) = before.countP (·.isAnswered)) ∧
      (state.isChecking = false → state.inProgress = 0 ∧
        ∃ asking settling answers, seen = asking ++ settling ∧ Gathered p asking answers ∧
          (∀ e ∈ settling, e.query? = none) ∧ GoesOn p answers settling state)) ∧
    (∀ (given : Nat → Replies) seen seen' answer answer' q q',
      PassRun p seen (.over answer q) → PassRun p seen' (.over answer' q') →
      (∀ e ∈ seen, e.Shows given) → (∀ e ∈ seen', e.Shows given) →
      answer = answer' ∧ q = q' ∧
        seen.filterMap (·.settled?) = seen'.filterMap (·.settled?)) ∧
    (∀ {ω : Type} (w : World ω) (d d' : Desk ω) answer q,
      p.sweep w.environment d = ((answer, q), d') →
      ∃ seen, PassRun p seen (.over answer q) ∧
        seen.filterMap (·.call? p.inFlight) =
          (d'.eventsSince d.journal.length).filter (·.callOn?.isSome)) := by
  have hatOnce : p.limits.statusChecks = (max 1 n).toNat := by
    unfold PoolLimits.ofRequest? at hlimits
    split at hlimits
    · rw [← Except.ok.inj hlimits]
      rfl
    · cases hlimits
  refine ⟨?_, ?_, ?_⟩
  · intro seen state h
    refine ⟨hatOnce ▸ h.inProgress_le, h.balance, h.atMostOnce, ?_, ?_⟩
    · rintro before place e after rfl
      exact h.settled_after_queries
    · intro hstate
      exact ⟨inProgress_eq_zero_of_not_checking hstate, h.gathered hstate⟩
  · intro given seen seen' answer answer' q q' h h' hseen hseen'
    exact h.unique h' hseen hseen'
  · intro ω w d d' answer q hswept
    exact exists_passRun_of_sweep ((sweep_ensures p).of_run hswept).2

/-- In `halfAnswered` a pass ends with the failed check, and has an answer for both jobs. -/
theorem query_order_does_not_matter_at_half_answered :
    PoolLimits.ofRequest? 2 1 0.0 1 = .ok halfAnsweredPool.limits ∧
    ∃ seen asking settling answers,
      PassRun halfAnsweredPool seen
        (.over (.error (.outside .runtime "down")) halfAnsweredPool) ∧
      seen = asking ++ settling ∧ Gathered halfAnsweredPool asking answers := by
  have hlimits : PoolLimits.ofRequest? 2 1 0.0 1 = .ok halfAnsweredPool.limits := rfl
  have hfirst : (halfAnsweredPool.ask Rehearsal.Services.world.environment
      { world := halfAnswered }).1.findSome? fault? = some (.outside .runtime "down") := by
    decide +kernel
  obtain ⟨hpasses, -, hsweep⟩ := query_order_does_not_matter halfAnsweredPool 2 1 1 0.0 hlimits
  obtain ⟨seen, hrun, -⟩ := hsweep _ _ _ _ _ (sweep_of_failed_check hfirst)
  obtain ⟨-, -, -, -, hleft⟩ := hpasses seen _ hrun
  obtain ⟨-, asking, settling, answers, hseen, hgathered, -⟩ := hleft rfl
  exact ⟨hlimits, seen, asking, settling, answers, hrun, hseen, hgathered⟩

/-- A job that was submitted, and whose session its owner has closed since. -/
def withdrawnJob : Attempt where
  session := ⟨1⟩
  config := { path := "/f0" }
  budget := { limit := 3, used := 1, limit_pos := Nat.succ_pos 2 }
  jobId := some 1
  released := true

/-- A pool with `withdrawnJob` in flight. -/
def withdrawnPool : Pool where
  limits := {
    capacity := 2
    submissions := 3
    pollInterval := PoolLimits.clampInterval 0.0
    statusChecks := 1
    capacity_pos := Nat.two_pos
    submissions_pos := Nat.succ_pos 2
    statusChecks_pos := Nat.one_pos }
  inFlight := [withdrawnJob]

/-- `withdrawnJob` is what is in flight once a job was admitted and its attempt released.  It has a
number, and yet a pass leaves the checks behind without having asked about it. -/
theorem withdrawn_job_is_not_asked_about :
    (run Rehearsal.Services.world 5 withdrawnPool.limits
        [.admitJob { path := "/f0" }, .call ⟨1⟩ .release] { world := {} }).1.inFlight =
      [withdrawnJob] ∧
    withdrawnJob.jobId = some 1 ∧
    ∃ seen state, PassRun withdrawnPool seen state ∧ state.isChecking = false ∧
      queriesAt 0 seen = [] := by
  have hskip : Checks.StepAt 1 withdrawnJob 0 [⟨withdrawnJob, .waiting⟩] []
      [⟨withdrawnJob, .ended withdrawnJob.statusUnasked⟩] :=
    .mk [] [] (.skip rfl Nat.one_pos)
  have hrefuse : PassStep withdrawnPool
      (.checking [⟨withdrawnJob, .ended withdrawnJob.statusUnasked⟩]) []
      (.over (.error (.attemptReleased "/f0")) withdrawnPool) :=
    .refuse rfl rfl
  have hinFlight : (run Rehearsal.Services.world 5 withdrawnPool.limits
      [.admitJob { path := "/f0" }, .call ⟨1⟩ .release] { world := {} }).1.inFlight =
        [withdrawnJob] := by
    decide +kernel
  exact ⟨hinFlight, rfl, _, _, .tail (.single (.check hskip)) hrefuse, rfl, rfl⟩

end Pool

end LoadDispatch
