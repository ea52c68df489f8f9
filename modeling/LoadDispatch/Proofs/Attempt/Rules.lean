import LoadDispatch.Proofs.Pool.Pass

/-!
# The life of an attempt under fixed rules

If a session answers by rules that know nothing but the session and the calls made on it before, the
life of the attempt on it is determined: no matter when a sweep comes, what it does to the attempt
is the same.  This module makes that precise for a single attempt.

* `SessionRules` are such rules, and `SessionRules.Follows` says that the calls on a session were
  answered by them.  The numbers that are given to jobs are left out (`Event.withoutNumbers`): two
  services may number their jobs differently, and a pool never looks at a number.
* `Attempt.Twin` says of two attempts, each with the calls on its session so far, that they differ
  in nothing but such numbers.  Twins stay twins whatever is done to both (`Twin.asks`,
  `Twin.submits`, `Twin.settles`), as long as both sessions follow the same rules.
* `Attempt.Round` is the part of an attempt in a sweep that goes through, and `Attempt.Leaves` says
  that it leaves after so many rounds at most.  `Attempt.Lifetime` is all of it, from the first
  submission on.  A twin goes through the same rounds with the same result (`Twin.round`).
-/

namespace LoadDispatch

/-- The same event with the numbers of jobs left out. -/
def Event.withoutNumbers : Event → Event
  | .submitted session config answer =>
    .submitted session config (answer.map (Option.map fun _ => 0))
  | .polled session _ answer => .polled session 0 answer
  | e => e

/-- Calls with the numbers of jobs left out. -/
def history (calls : List Event) : List Event :=
  calls.map Event.withoutNumbers

/-- How sessions answer if an answer depends on nothing but the session, the calls made on it
before, and the call.  Of the answer to a submission a rule says only whether it has a number. -/
structure SessionRules where
  /-- Whether a session can be opened. -/
  connect : Session → Except Fault Unit
  /-- Whether a submission is given a number. -/
  submit : Session → List Event → JobConfig → Except Fault Bool
  /-- The answer to a status query. -/
  poll : Session → List Event → Except Fault PolledStatus
  /-- Whether a session can be closed. -/
  close : Session → List Event → Except Fault Unit

namespace SessionRules

/-- The answer to a call is the one that the rules give. -/
def Answers (rules : SessionRules) (s : Session) (before : List Event) : Event → Prop
  | .submitted _ config answer => answer.map Option.isSome = rules.submit s before config
  | .polled _ _ answer => answer = rules.poll s before
  | .closed _ answer => answer = rules.close s before
  | _ => True

/-- The calls on a session were answered by the rules. -/
def Follows (rules : SessionRules) (s : Session) (calls : List Event) : Prop :=
  ∀ before e, before ++ [e] <+: calls → rules.Answers s (history before) e

/-- All sessions were opened, and all calls on them answered, by the rules. -/
structure Obeyed (rules : SessionRules) (events : List Event) : Prop where
  /-- Sessions were opened by the rules. -/
  openings : ∀ s answer, .opened s answer ∈ events → answer = rules.connect s
  /-- Calls were answered by the rules. -/
  calls : ∀ s, rules.Follows s (callsOn s events)

variable {rules : SessionRules} {s : Session} {xs ys : List Event} {e : Event}

theorem Follows.left (h : rules.Follows s (xs ++ ys)) : rules.Follows s xs :=
  fun before e hcalls => h before e (hcalls.trans (List.prefix_append xs ys))

/-- The call behind some others was answered by the rules. -/
theorem Follows.next (h : rules.Follows s (xs ++ e :: ys)) : rules.Answers s (history xs) e :=
  h xs e ⟨ys, by simp⟩

theorem Obeyed.left (h : rules.Obeyed (xs ++ ys)) : rules.Obeyed xs := by
  refine ⟨fun s answer hmem => h.openings s answer (List.mem_append_left _ hmem), fun s => ?_⟩
  have hcalls := h.calls s
  rw [callsOn_append] at hcalls
  exact hcalls.left

end SessionRules

namespace Attempt

/-! ## What an operation calls -/

section Operations

variable {a b : Attempt} {own : List Event}

/-- Asking is one query, or none. -/
theorem Asks.query {answer : Except Fault PolledStatus} (h : a.Asks own answer) :
    (a.asksFor = none ∧ callsOn a.session own = [] ∧ answer = a.statusUnasked) ∨
      ∃ job reply, a.asksFor = some job ∧
        callsOn a.session own = [.polled a.session job reply] ∧ answer = absorb reply := by
  cases h with
  | unasked hnone hanswer => exact .inl ⟨hnone, rfl, hanswer⟩
  | @answered job status hsome => exact .inr ⟨job, .ok status, hsome, by simp, rfl⟩
  | @absorbed job fault hsome hfault =>
      exact .inr ⟨job, .error fault, hsome, by simp, by simp [absorb, hfault]⟩
  | @failed job fault hsome hfault =>
      exact .inr ⟨job, .error fault, hsome, by simp, by simp [absorb, hfault]⟩

/-- What the answer to a submission counts as: a fault of the job service is a submission made. -/
def accept : Except Fault (Option Int) → Except Fault Bool
  | .ok _ => .ok true
  | .error fault => if fault.isJobService then .ok true else .error fault

/-- Submitting is one submission, or none if the budget is used up. -/
theorem Submits.submission {answer : Except Fault Bool} (h : a.Submits own answer b)
    (hr : a.released = false) :
    (a.budget.spend? = none ∧ callsOn a.session own = [] ∧ answer = .ok false ∧ b = a) ∨
      ∃ budget reply, a.budget.spend? = some budget ∧
        callsOn a.session own = [.submitted a.session a.config reply] ∧ answer = accept reply ∧
        b = { a with budget, jobId := reply.toOption.join } := by
  cases h with
  | refused hr' =>
      rw [hr] at hr'
      cases hr'
  | spent _ hnone => exact .inl ⟨hnone, by simp, rfl, rfl⟩
  | @answered budget jobId _ hspend => exact .inr ⟨budget, .ok jobId, hspend, by simp, rfl, rfl⟩
  | @absorbed budget fault _ hspend hfault =>
      exact .inr ⟨budget, .error fault, hspend, by simp, by simp [accept, hfault], rfl⟩
  | @failed budget fault _ hspend hfault =>
      exact .inr ⟨budget, .error fault, hspend, by simp, by simp [accept, hfault], rfl⟩

/-- An open attempt is released by one closing. -/
theorem Releases.of_open {answer : Except Fault Unit} (h : a.Releases own answer b)
    (hopen : a.released = false) :
    own = [.closed a.session answer] ∧ b = { a with released := true } := by
  cases h with
  | again hreleased => rw [hopen] at hreleased; cases hreleased
  | closed => exact ⟨rfl, rfl⟩

/-- What becomes of an attempt whose job has failed, once it was submitted with an answer. -/
inductive Resolves (b : Attempt) : Except Fault Bool → List Event → Settlement → Prop where
  /-- The submission was granted, and the attempt stays. -/
  | resubmitted : Resolves b (.ok true) [] { attempt := b }
  /-- The budget is used up, and the attempt leaves. -/
  | givenUp {events : List Event} {reply : Except Fault Unit} {c : Attempt} :
    b.Releases events reply c → Resolves b (.ok false) events (c.leaving .abandoned reply)
  /-- The submission ended with a fault. -/
  | failed (fault : Fault) : Resolves b (.error fault) [] { attempt := b, fault := some fault }

section Statuses

variable {status : JobStatus} {first : Settlement}

/-- Settling a pending status does nothing. -/
theorem Settles.of_pending (h : a.Settles (.known status) own first)
    (hpending : status.isPending = true) : own = [] ∧ first = { attempt := a } := by
  cases h with
  | pending => exact ⟨rfl, rfl⟩
  | finished hfin => cases status <;> cases hfin <;> cases hpending
  | resubmitted | givenUp | failed => cases hpending

/-- Settling a finished status releases the attempt. -/
theorem Settles.releases (h : a.Settles (.known status) own first)
    (hfin : status.isFinished = true) :
    ∃ events answer c, callsOn a.session own = callsOn a.session events ∧
      a.Releases events answer c ∧ first = c.leaving .completed answer := by
  cases h with
  | pending hpending => cases status <;> cases hfin <;> cases hpending
  | finished _ hrel => exact ⟨_, _, _, by simp, hrel, rfl⟩
  | resubmitted | givenUp | failed => cases hfin

/-- Settling a failed job submits it first. -/
theorem Settles.resolves (h : a.Settles (.known .failed) own first) :
    ∃ xs ys answer b, own = xs ++ ys ∧ a.Submits xs answer b ∧ b.Resolves answer ys first := by
  cases h with
  | pending hpending => cases hpending
  | finished hfin => cases hfin
  | resubmitted hsub => exact ⟨_, [], _, _, (List.append_nil _).symm, hsub, .resubmitted⟩
  | givenUp hsub hrel => exact ⟨_, _, _, _, rfl, hsub, .givenUp hrel⟩
  | failed hsub => exact ⟨_, [], _, _, (List.append_nil _).symm, hsub, .failed _⟩

end Statuses

end Operations

/-! ## Twins -/

/-- Two attempts, each with the calls on its session so far, that differ in nothing but the numbers
of their jobs. -/
structure Twin (a : Attempt) (xs : List Event) (b : Attempt) (ys : List Event) : Prop where
  /-- They have the same session, each in its own run. -/
  session : b.session = a.session
  /-- They have the same job. -/
  config : b.config = a.config
  /-- They have used the same of their budgets. -/
  budget : b.budget = a.budget
  /-- Both have a number or none has. -/
  numbered : b.jobId.isSome = a.jobId.isSome
  /-- Both are released or none is. -/
  released : b.released = a.released
  /-- The calls so far were the same. -/
  history : history ys = history xs

section Twin

variable {rules : SessionRules} {a b a' b' : Attempt} {xs ys more more' own own' : List Event}

theorem Twin.refl (a : Attempt) (xs : List Event) : a.Twin xs a xs :=
  ⟨rfl, rfl, rfl, rfl, rfl, rfl⟩

theorem history_append : LoadDispatch.history (xs ++ ys) =
    LoadDispatch.history xs ++ LoadDispatch.history ys :=
  List.map_append

/-- The same call with the same answer, made by both. -/
theorem Twin.history_concat (t : a.Twin xs b ys) {e e' : Event}
    (he : e'.withoutNumbers = e.withoutNumbers) :
    LoadDispatch.history (ys ++ [e']) = LoadDispatch.history (xs ++ [e]) := by
  rw [history_append, history_append, t.history]
  exact congrArg (_ ++ [·]) he

/-- Twins are asked with the same result. -/
theorem Twin.asks (t : a.Twin xs b ys) {answer answer' : Except Fault PolledStatus}
    (h : a.Asks own answer) (h' : b.Asks own' answer')
    (hf : rules.Follows a.session (xs ++ callsOn a.session own))
    (hf' : rules.Follows a.session (ys ++ callsOn a.session own')) :
    answer' = answer ∧ a.Twin (xs ++ callsOn a.session own) b (ys ++ callsOn a.session own') := by
  have hasks : b.asksFor.isSome = a.asksFor.isSome := by
    unfold asksFor
    rw [t.released]
    split
    · rfl
    · exact t.numbered
  have h₂ := h'.query
  rw [t.session] at h₂
  rcases h.query with ⟨hnone, hcalls, rfl⟩ | ⟨job, reply, hsome, hcalls, rfl⟩
  · rcases h₂ with ⟨-, hcalls', rfl⟩ | ⟨job', _, hsome', -⟩
    · rw [hcalls, hcalls', List.append_nil, List.append_nil]
      refine ⟨?_, t⟩
      unfold statusUnasked
      rw [t.released, t.config]
    · rw [hnone, hsome'] at hasks
      cases hasks
  · rcases h₂ with ⟨hnone', -⟩ | ⟨job', reply', -, hcalls', rfl⟩
    · rw [hsome, hnone'] at hasks
      cases hasks
    · rw [hcalls] at hf ⊢
      rw [hcalls'] at hf' ⊢
      -- The rules give both queries the same answer.
      have hreply : reply = _ := hf.next
      have hreply' : reply' = _ := hf'.next
      rw [t.history, ← hreply] at hreply'
      subst hreply'
      exact ⟨rfl, { t with history := t.history_concat rfl }⟩

/-- Answers to a submission that agree on whether there is a number count as the same. -/
theorem accept_congr {reply reply' : Except Fault (Option Int)}
    (h : reply'.map Option.isSome = reply.map Option.isSome) :
    accept reply' = accept reply ∧
      reply'.toOption.join.isSome = reply.toOption.join.isSome ∧
      reply'.map (Option.map fun _ => (0 : Int)) = reply.map (Option.map fun _ => 0) := by
  cases reply with
  | error fault =>
      cases reply' with
      | error fault' =>
          cases h
          exact ⟨rfl, rfl, rfl⟩
      | ok => cases h
  | ok job =>
      cases reply' with
      | error => cases h
      | ok job' =>
          have hsome : job'.isSome = job.isSome := Except.ok.inj h
          refine ⟨rfl, hsome, ?_⟩
          cases job <;> cases job' <;> first | rfl | cases hsome

/-- Twins are submitted with the same result. -/
theorem Twin.submits (t : a.Twin xs b ys) {answer answer' : Except Fault Bool}
    (h : a.Submits own answer a') (h' : b.Submits own' answer' b') (hr : a.released = false)
    (hf : rules.Follows a.session (xs ++ callsOn a.session own))
    (hf' : rules.Follows a.session (ys ++ callsOn a.session own')) :
    answer' = answer ∧ a'.Twin (xs ++ callsOn a.session own) b' (ys ++ callsOn a.session own') := by
  have h₂ := h'.submission (t.released.trans hr)
  rw [t.session, t.budget, t.config] at h₂
  rcases h.submission hr with ⟨hnone, hcalls, rfl, rfl⟩ | ⟨budget, reply, hspend, hcalls, rfl, rfl⟩
  · rcases h₂ with ⟨-, hcalls', rfl, rfl⟩ | ⟨_, _, hspend', -⟩
    · rw [hcalls, hcalls', List.append_nil, List.append_nil]
      exact ⟨rfl, t⟩
    · rw [hnone] at hspend'
      cases hspend'
  · rcases h₂ with ⟨hnone', -⟩ | ⟨budget', reply', hspend', hcalls', rfl, rfl⟩
    · rw [hspend] at hnone'
      cases hnone'
    · rw [hspend] at hspend'
      cases hspend'
      rw [hcalls] at hf ⊢
      rw [hcalls'] at hf' ⊢
      have hreply : reply.map Option.isSome = _ := hf.next
      have hreply' : reply'.map Option.isSome = _ := hf'.next
      rw [t.history, ← hreply] at hreply'
      obtain ⟨haccept, hnumbered, hanswer⟩ := accept_congr hreply'
      refine ⟨haccept, rfl, rfl, rfl, hnumbered, t.released, t.history_concat ?_⟩
      exact congrArg (Event.submitted a.session a.config) hanswer

/-- Twins are released with the same result. -/
theorem Twin.releases (t : a.Twin xs b ys) {answer answer' : Except Fault Unit}
    (h : a.Releases own answer a') (h' : b.Releases own' answer' b') (hr : a.released = false)
    (hf : rules.Follows a.session (xs ++ callsOn a.session own))
    (hf' : rules.Follows a.session (ys ++ callsOn a.session own')) :
    answer' = answer ∧ a'.Twin (xs ++ callsOn a.session own) b' (ys ++ callsOn a.session own') := by
  obtain ⟨hown, rfl⟩ := h.of_open hr
  obtain ⟨hown', rfl⟩ := h'.of_open (t.released.trans hr)
  have hcalls : callsOn a.session own = [.closed a.session answer] := by simp [hown]
  have hcalls' : callsOn b.session own' = [.closed b.session answer'] := by simp [hown']
  rw [t.session] at hcalls'
  rw [hcalls] at hf ⊢
  rw [hcalls'] at hf' ⊢
  have hanswer : answer = _ := hf.next
  have hanswer' : answer' = _ := hf'.next
  rw [t.history, ← hanswer] at hanswer'
  subst hanswer'
  exact ⟨rfl, t.session, t.config, t.budget, t.numbered, rfl, t.history_concat rfl⟩

/-- **Twins are settled with the same result**: they stay or leave both, with the same fault or
none. -/
theorem Twin.settles (t : a.Twin xs b ys) {status : PolledStatus} {first first' : Settlement}
    (h : a.Settles status own first) (h' : b.Settles status own' first') (hr : a.released = false)
    (hf : rules.Follows a.session (xs ++ callsOn a.session own))
    (hf' : rules.Follows a.session (ys ++ callsOn a.session own')) :
    first'.departure = first.departure ∧ first'.fault = first.fault ∧
      first.attempt.Twin (xs ++ callsOn a.session own) first'.attempt
        (ys ++ callsOn a.session own') := by
  match status with
  | .unknown text =>
      cases h
      cases h'
      exact ⟨rfl, rfl, by simpa using t⟩
  | .known .created | .known .running =>
      obtain ⟨rfl, rfl⟩ := h.of_pending rfl
      obtain ⟨rfl, rfl⟩ := h'.of_pending rfl
      exact ⟨rfl, rfl, by simpa using t⟩
  | .known .completed | .known .canceled =>
      obtain ⟨events, answer, c, hcalls, hrel, rfl⟩ := h.releases rfl
      obtain ⟨events', answer', c', hcalls', hrel', rfl⟩ := h'.releases rfl
      rw [t.session] at hcalls'
      rw [hcalls] at hf ⊢
      rw [hcalls'] at hf' ⊢
      obtain ⟨rfl, t'⟩ := t.releases hrel hrel' hr hf hf'
      exact ⟨rfl, rfl, t'⟩
  | .known .failed =>
      obtain ⟨zs, more, answer, c, rfl, hsub, hresolves⟩ := h.resolves
      obtain ⟨zs', more', answer', c', rfl, hsub', hresolves'⟩ := h'.resolves
      rw [callsOn_append, ← List.append_assoc] at hf hf' ⊢
      rw [callsOn_append, ← List.append_assoc]
      obtain ⟨rfl, t'⟩ := t.submits hsub hsub' hr hf.left hf'.left
      have hs : c.session = a.session := hsub.lives.course.session_eq
      cases hresolves with
      | resubmitted =>
          cases hresolves'
          exact ⟨rfl, rfl, by simpa using t'⟩
      | failed =>
          cases hresolves'
          exact ⟨rfl, rfl, by simpa using t'⟩
      | givenUp hrel =>
          obtain ⟨-⟩ | hrel' := hresolves'
          rw [← hs] at hf hf' t' ⊢
          obtain ⟨rfl, t''⟩ := t'.releases hrel hrel' (hsub.released_eq.trans hr) hf hf'
          exact ⟨rfl, rfl, t''⟩

end Twin

/-! ## Rounds -/

/-- The part of an attempt in a sweep that goes through. -/
inductive Round (a : Attempt) : List Event → Attempt → Option Departure → Prop where
  /-- It is asked and settled, without a fault. -/
  | mk {xs ys : List Event} {status : PolledStatus} {first : Settlement} :
    a.Asks xs (.ok status) → a.Settles status ys first → first.fault = none →
    Round a (callsOn a.session xs ++ callsOn a.session ys) first.attempt first.departure

/-- An attempt leaves after so many rounds at most: the calls until then, the attempt in the end,
and why it leaves. -/
inductive Leaves : Nat → Attempt → List Event → Attempt → Departure → Prop where
  /-- It leaves in the next round. -/
  | now {n : Nat} {a b : Attempt} {calls : List Event} {why : Departure} :
    a.Round calls b (some why) → Leaves (n + 1) a calls b why
  /-- It stays for a round. -/
  | later {n : Nat} {a b c : Attempt} {calls more : List Event} {why : Departure} :
    a.Round calls b none → Leaves n b more c why → Leaves (n + 1) a (calls ++ more) c why

/-- A whole life: a first submission, and so many rounds at most. -/
inductive Lifetime (n : Nat) (start : Attempt) : List Event → Attempt → Departure → Prop where
  /-- It is submitted, and leaves in the end. -/
  | mk {own more : List Event} {granted : Bool} {a b : Attempt} {why : Departure} :
    start.Submits own (.ok granted) a → Leaves n a more b why →
    Lifetime n start (callsOn start.session own ++ more) b why

section Rounds

variable {rules : SessionRules} {a b c : Attempt} {xs ys calls : List Event} {n n' : Nat}
  {why : Departure}

theorem Round.course {departure : Option Departure} (h : a.Round calls b departure) :
    a.Course calls b := by
  obtain ⟨hask, hset, -⟩ := h
  exact hask.lives.course.trans hset.lives.course

/-- Who leaves within some rounds leaves within more. -/
theorem Leaves.mono (h : Leaves n a calls b why) (hle : n ≤ n') : Leaves n' a calls b why := by
  induction h generalizing n' with
  | now hround =>
      cases n' with
      | zero => exact absurd hle (Nat.not_succ_le_zero _)
      | succ => exact .now hround
  | later hround _ ih =>
      cases n' with
      | zero => exact absurd hle (Nat.not_succ_le_zero _)
      | succ => exact .later hround (ih (Nat.le_of_succ_le_succ hle))

theorem Lifetime.mono {start : Attempt} (h : start.Lifetime n calls b why) (hle : n ≤ n') :
    start.Lifetime n' calls b why := by
  obtain ⟨hsub, hleaves⟩ := h
  exact .mk hsub (hleaves.mono hle)

/-- **A twin goes through the same rounds**: where an attempt has gone through a round, its twin,
asked and settled, meets no fault, and leaves for the same reason or stays as well. -/
theorem Twin.round (t : a.Twin xs b ys) {a' : Attempt} {departure : Option Departure}
    (h : a.Round calls a' departure) {asked own : List Event} {status : PolledStatus}
    {first : Settlement} (hask : b.Asks asked (.ok status)) (hset : b.Settles status own first)
    (hf : rules.Follows a.session (xs ++ calls))
    (hf' : rules.Follows a.session (ys ++ (callsOn a.session asked ++ callsOn a.session own))) :
    first.fault = none ∧ first.departure = departure ∧
      a'.Twin (xs ++ calls) first.attempt
        (ys ++ (callsOn a.session asked ++ callsOn a.session own)) := by
  obtain ⟨hask₁, hset₁, hnone⟩ := h
  rw [← List.append_assoc] at hf hf' ⊢
  rw [← List.append_assoc]
  obtain ⟨hstatus, t'⟩ := t.asks hask₁ hask hf.left hf'.left
  cases hstatus
  obtain ⟨hdeparture, hfault, t''⟩ := t'.settles hset₁ hset hask₁.released_eq_false hf hf'
  exact ⟨hfault.trans hnone, hdeparture, t''⟩

/-- Where an attempt still goes through a round, its twin has a status. -/
theorem Twin.has_status (t : a.Twin xs b ys) (h : Leaves n a calls c why)
    {own : List Event} {answer : Except Fault PolledStatus} (hask : b.Asks own answer)
    (hf : rules.Follows a.session (xs ++ calls))
    (hf' : rules.Follows a.session (ys ++ callsOn a.session own)) :
    ∃ status, answer = .ok status := by
  obtain ⟨_, _, _, more, heq, ⟨hask₁, -, -⟩⟩ : ∃ first b' departure more,
      calls = first ++ more ∧ a.Round first b' departure := by
    cases h with
    | now hround => exact ⟨_, _, _, [], (List.append_nil _).symm, hround⟩
    | later hround => exact ⟨_, _, _, _, rfl, hround⟩
  rw [heq, ← List.append_assoc, ← List.append_assoc] at hf
  exact ⟨_, (t.asks hask₁ hask hf.left.left hf').1⟩

/-- **Twins leave together.**  Let an attempt leave within `n + 1` rounds, and let its twin be asked
and settled.  Then the twin meets no fault, and it leaves in this round for the reason that the
other one leaves for, or it stays and is the twin of one that leaves within `n` rounds. -/
theorem Twin.leaves (t : a.Twin xs b ys) (h : Leaves (n + 1) a calls c why)
    {asked own : List Event} {status : PolledStatus} {first : Settlement}
    (hask : b.Asks asked (.ok status)) (hset : b.Settles status own first)
    (hf : rules.Follows a.session (xs ++ calls))
    (hf' : rules.Follows a.session (ys ++ (callsOn a.session asked ++ callsOn a.session own))) :
    first.fault = none ∧
      ((first.departure = some why ∧
          c.Twin (xs ++ calls) first.attempt
            (ys ++ (callsOn a.session asked ++ callsOn a.session own))) ∨
        (first.departure = none ∧ ∃ a' done rest, calls = done ++ rest ∧ Leaves n a' rest c why ∧
          a'.Twin (xs ++ done) first.attempt
            (ys ++ (callsOn a.session asked ++ callsOn a.session own)))) := by
  cases h with
  | now hround =>
      obtain ⟨hfault, hdeparture, t'⟩ := t.round hround hask hset hf hf'
      exact ⟨hfault, .inl ⟨hdeparture, t'⟩⟩
  | later hround hrest =>
      rw [← List.append_assoc] at hf
      obtain ⟨hfault, hdeparture, t'⟩ := t.round hround hask hset hf.left hf'
      exact ⟨hfault, .inr ⟨hdeparture, _, _, _, rfl, hrest, t'⟩⟩

end Rounds

end Attempt

end LoadDispatch
