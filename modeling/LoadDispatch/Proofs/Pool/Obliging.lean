import LoadDispatch.Proofs.Pool.Countdown

/-!
# Services that keep their word

A service may keep a job pending for ever, and then no wait for the job ends.  `Obliging K` says of
events that this does not happen: after each submission the job is called pending `K` times at most,
and all other answers are ones that a pool can deal with.

An attempt in such a run has so many sweeps left (`Attempt.sweepsLeft`): `K + 1` for each submission
that its budget still has, and what is left of those for the latest one.  A submission gives the
latter back and takes one of the former, so every sweep that an attempt stays in makes the number
smaller (`Attempt.sweepsLeft_lt`), whatever the sweep does.  With the largest of these numbers a
pool counts down (`countdown_of_obliging`), and it begins with `K + 1` for each submission.
-/

namespace LoadDispatch

/-- The answer is one that a pool can deal with: a submission or a query meets no fault but those of
the job service, a status is one of the five, and closing succeeds. -/
def Event.Obliging : Event → Prop
  | .submitted _ _ (.error fault) => fault.isJobService = true
  | .polled _ _ (.ok (.unknown _)) => False
  | .polled _ _ (.error fault) => fault.isJobService = true
  | .closed _ (.error _) => False
  | _ => True

/-- A session that is asked for is opened, and metadata that are asked for are had. -/
def Event.Available : Event → Prop
  | .opened _ (.error _) => False
  | .statted _ (.error _) => False
  | .listed _ (.error _) => False
  | _ => True

/-- How often the latest submission was called pending, after an event. -/
def Event.pending (n : Nat) : Event → Nat
  | .submitted _ _ _ => 0
  | .polled _ _ (.ok (.known status)) => if status.isPending then n + 1 else n
  | _ => n

/-- How often the latest submission was called pending. -/
def pendingAfter (calls : List Event) : Nat :=
  calls.foldl Event.pending 0

/-- The services keep their word: answers can be dealt with, and no submission is called pending
more than `K` times. -/
structure Obliging (K : Nat) (events : List Event) : Prop where
  /-- Answers can be dealt with. -/
  answers : ∀ e ∈ events, e.Obliging
  /-- At no moment was a submission called pending more often. -/
  pending : ∀ s calls, calls <+: callsOn s events → pendingAfter calls ≤ K

section Events

variable {K : Nat} {s : Session} {calls more xs ys : List Event}

theorem pendingAfter_append :
    pendingAfter (calls ++ more) = more.foldl Event.pending (pendingAfter calls) :=
  List.foldl_append

theorem Obliging.left (h : Obliging K (xs ++ ys)) : Obliging K xs := by
  refine ⟨fun e he => h.answers e (List.mem_append_left _ he), fun s calls hcalls => ?_⟩
  refine h.pending s calls (hcalls.trans ?_)
  rw [callsOn_append]
  exact List.prefix_append _ _

/-- What a pool does between two openings asks for nothing else. -/
theorem Event.Among.available {ss : List Session} {e : Event} (h : e.Among ss) : e.Available := by
  cases e with
  | opened | statted | listed => exact h.elim
  | _ => trivial

end Events

/-! ## One attempt -/

namespace Attempt

variable {a b : Attempt} {K : Nat} {calls own xs ys : List Event}

/-- An attempt that is not released gets a status. -/
theorem Asks.of_obliging {answer : Except Fault PolledStatus} (h : a.Asks own answer)
    (hr : a.released = false) (ho : ∀ e ∈ callsOn a.session own, e.Obliging) :
    ∃ status, answer = .ok (.known status) := by
  cases h with
  | unasked _ hanswer => exact ⟨.failed, by simpa [statusUnasked, hr] using hanswer⟩
  | answered status _ =>
      cases status with
      | known status => exact ⟨status, rfl⟩
      | unknown text => exact (ho _ (mem_callsOn.mpr ⟨List.mem_cons_self, rfl⟩)).elim
  | absorbed => exact ⟨.failed, rfl⟩
  | @failed _ fault _ hfault =>
      have hobliging : fault.isJobService = true :=
        ho _ (mem_callsOn.mpr ⟨List.mem_cons_self, rfl⟩)
      rw [hfault] at hobliging
      cases hobliging

/-- An attempt that is not released is submitted, or its budget is used up. -/
theorem Submits.of_obliging {answer : Except Fault Bool} (h : a.Submits own answer b)
    (hr : a.released = false) (ho : ∀ e ∈ callsOn a.session own, e.Obliging) :
    ∃ granted, answer = .ok granted := by
  cases h with
  | refused hr' =>
      rw [hr] at hr'
      cases hr'
  | spent => exact ⟨false, rfl⟩
  | answered | absorbed => exact ⟨true, rfl⟩
  | @failed _ fault _ _ hfault =>
      have hobliging : fault.isJobService = true :=
        ho _ (mem_callsOn.mpr ⟨List.mem_cons_self, rfl⟩)
      rw [hfault] at hobliging
      cases hobliging

theorem Releases.of_obliging {answer : Except Fault Unit} (h : a.Releases own answer b)
    (ho : ∀ e ∈ callsOn a.session own, e.Obliging) : answer = .ok () := by
  cases h with
  | again => rfl
  | closed =>
      cases answer with
      | ok => rfl
      | error => exact (ho _ (mem_callsOn.mpr ⟨List.mem_cons_self, rfl⟩)).elim

/-- Settling one of the five statuses goes through. -/
theorem Settles.of_obliging {status : JobStatus} {first : Settlement}
    (h : a.Settles (.known status) own first) (hr : a.released = false)
    (ho : ∀ e ∈ callsOn a.session own, e.Obliging) : first.fault = none := by
  cases h with
  | pending => rfl
  | finished _ hrel =>
      rw [hrel.of_obliging fun e he => ho e (by simpa using he)]
      rfl
  | resubmitted => rfl
  | givenUp hsub hrel =>
      obtain ⟨rfl, -, -⟩ := hsub.spent_of_false
      rw [callsOn_append, List.forall_mem_append] at ho
      rw [hrel.of_obliging ho.2]
      rfl
  | failed hsub =>
      obtain ⟨_, heq⟩ := hsub.of_obliging hr ho
      cases heq

/-- How many sweeps an attempt may still stay in, and the one that it leaves in: `K + 1` for each
submission that it may still make, and the rest of those for its latest one. -/
def sweepsLeft (K : Nat) (a : Attempt) (calls : List Event) : Nat :=
  (a.budget.limit - a.budget.used) * (K + 1) + (K - pendingAfter calls) + 1

theorem sweepsLeft_le (hused : 0 < a.budget.used) :
    a.sweepsLeft K calls ≤ a.budget.limit * (K + 1) := by
  have hlimit : a.budget.limit - 1 + 1 = a.budget.limit := Nat.sub_add_cancel a.budget.limit_pos
  calc a.sweepsLeft K calls
      ≤ (a.budget.limit - a.budget.used) * (K + 1) + (K + 1) := by
        rw [sweepsLeft]
        omega
    _ ≤ (a.budget.limit - 1) * (K + 1) + (K + 1) :=
        Nat.add_le_add_right (Nat.mul_le_mul_right _ (Nat.sub_le_sub_left hused _)) _
    _ = a.budget.limit * (K + 1) := by rw [← Nat.succ_mul, Nat.succ_eq_add_one, hlimit]

/-- A pending status is an answer of the service. -/
theorem Asks.polled_of_pending {status : JobStatus} (h : a.Asks own (.ok (.known status)))
    (hpending : status.isPending = true) :
    ∃ job, callsOn a.session own = [.polled a.session job (.ok (.known status))] := by
  refine h.polled_of_ne_failed ?_
  rintro ⟨⟩
  cases hpending

/-- **Every sweep that an attempt stays in counts down**: it was called pending once more, or it was
submitted once more. -/
theorem sweepsLeft_lt {status : PolledStatus} {first : Settlement} (hask : a.Asks xs (.ok status))
    (hset : a.Settles status ys first) (hstay : first.departure = none)
    (hfault : first.fault = none)
    (hK : pendingAfter (calls ++ (callsOn a.session xs ++ callsOn a.session ys)) ≤ K) :
    first.attempt.sweepsLeft K (calls ++ (callsOn a.session xs ++ callsOn a.session ys)) <
      a.sweepsLeft K calls := by
  cases hset with
  | pending hpending =>
      obtain ⟨job, hcalls⟩ := hask.polled_of_pending hpending
      have hmore : pendingAfter (calls ++ (callsOn a.session xs ++ callsOn a.session [])) =
          pendingAfter calls + 1 := by
        rw [callsOn_nil, List.append_nil, hcalls, pendingAfter_append]
        simp [Event.pending, hpending]
      rw [hmore] at hK
      show a.sweepsLeft K _ < _
      rw [sweepsLeft, sweepsLeft, hmore]
      omega
  | finished | givenUp => cases hstay
  | failed | unknown => cases hfault
  | @resubmitted ys b hsub =>
      obtain ⟨answer, hcalls, hlimit, hused⟩ : ∃ answer,
          callsOn a.session ys = [.submitted a.session a.config answer] ∧
            b.budget.limit = a.budget.limit ∧ b.budget.used = a.budget.used + 1 := by
        cases hsub with
        | answered jobId _ hspend => exact ⟨.ok jobId, by simp, RetryBudget.spend?_eq_some hspend⟩
        | @absorbed _ fault _ hspend =>
            exact ⟨.error fault, by simp, RetryBudget.spend?_eq_some hspend⟩
      have hzero : pendingAfter (calls ++ (callsOn a.session xs ++ callsOn a.session ys)) = 0 := by
        rw [hcalls, pendingAfter_append, List.foldl_append]
        rfl
      have hle := b.budget.used_le
      rw [hlimit, hused] at hle
      -- One submission less is left, and it was worth `K + 1` sweeps.
      have hleft : a.budget.limit - a.budget.used =
          a.budget.limit - (a.budget.used + 1) + 1 := by omega
      rw [sweepsLeft, sweepsLeft, hzero, hlimit, hused, hleft, Nat.succ_mul]
      omega

end Attempt

/-! ## A pool -/

namespace Pool

/-- What is assumed of the events of a run behind others: sessions are different, and the services
keep their word. -/
structure Served (K : Nat) (before events : List Event) : Prop where
  /-- No session is opened twice. -/
  nodup : (openedIn (before ++ events)).Nodup
  /-- The service keeps its word. -/
  obliging : Obliging K events
  /-- Sessions can be opened, and metadata can be had. -/
  available : ∀ e ∈ events, e.Available

/-- Everyone in flight has `n` sweeps left at most, counted from behind `before`. -/
structure Due (limits : PoolLimits) (K : Nat) (before : List Event) (n : Nat)
    (events : List Event) (p : Pool) : Prop where
  /-- The ledger is right. -/
  ledger : Ledger (before ++ events) p
  /-- Nothing is released in flight. -/
  held : p.Held
  /-- The limits are the same. -/
  limits_eq : p.limits = limits
  /-- The sweeps that are left. -/
  left : ∀ a ∈ p.inFlight, a.sweepsLeft K (callsOn a.session events) ≤ n

section Due

variable {limits : PoolLimits} {K n : Nat} {before xs ys : List Event} {p q : Pool}

/-- Whatever pool it begins with, nobody has more sweeps left than its submissions allow. -/
theorem Due.initial (l : Ledger before p) (hheld : p.Held) :
    Due p.limits K before (p.limits.submissions * (K + 1)) [] p := by
  refine ⟨by simpa using l, hheld, rfl, fun a ha => ?_⟩
  have hroster : a ∈ p.roster := List.mem_append_left _ ha
  obtain ⟨config, hcourse⟩ := l.course a hroster
  have hlimit : a.budget.limit = p.limits.submissions := (Attempt.Course.frame hcourse).2.2
  exact hlimit ▸ Attempt.sweepsLeft_le (l.begun a hroster)

/-- **A sweep goes through**: everyone has a status, and settling it meets no fault. -/
theorem Sweeps.returns_of_obliging {answer : Except Fault Nat} (hsweep : p.Sweeps ys answer q)
    (hn : (sessionsOf p.inFlight).Nodup) (hheld : p.Held) (ho : ∀ e ∈ ys, e.Obliging) :
    ∃ removed, answer = .ok removed := by
  have hcalls : ∀ s, ∀ e ∈ callsOn s ys, e.Obliging := fun s e he => ho e (mem_callsOn.mp he).1
  cases answer with
  | ok removed => exact ⟨removed, rfl⟩
  | error fault =>
      rcases hsweep.blame hn with
        ⟨a, ha, own, hask, hown⟩ | ⟨a, own, status, more, first, hat, hfault⟩
      · obtain ⟨_, heq⟩ := hask.of_obliging (hheld a ha) (hown ▸ hcalls a.session)
        cases heq
      · have hr := hheld a hat.mem
        have hall := hcalls a.session
        rw [hat.calls_eq hn, List.forall_mem_append] at hall
        obtain ⟨known, heq⟩ := hat.asks.of_obliging hr hall.1
        cases heq
        rw [hat.settles.of_obliging hr hall.2] at hfault
        cases hfault

theorem Due.sweep (h : Due limits K before (n + 1) xs p) (hA : Served K before (xs ++ ys))
    {answer : Except Fault Nat} (hsweep : p.Sweeps ys answer q) :
    ∃ removed, answer = .ok removed ∧ Due limits K before n (xs ++ ys) q := by
  have hnodup := hA.nodup
  rw [← List.append_assoc] at hnodup
  have hn := h.ledger.nodup_inFlight (nodup_openedIn_left hnodup)
  obtain ⟨removed, rfl⟩ := hsweep.returns_of_obliging hn h.held fun e he =>
    hA.obliging.answers e (List.mem_append_right _ he)
  obtain ⟨gone, t⟩ := hsweep.visits hn
  refine ⟨removed, rfl, ?_, ?_, t.limits.trans h.limits_eq, ?_⟩
  · rw [← List.append_assoc]
    exact h.ledger.move (.sweep hsweep) hnodup
  · exact Move.held (.sweep hsweep) hn h.held
  · intro b hb
    obtain ⟨a, ha, hvisit⟩ := t.stays b hb
    have hs : b.session = a.session := hvisit.passes.course.session_eq
    obtain ⟨own, status, more, first, hat, hfault, hcalls, rfl, hstay⟩ := hvisit.of_ok
    have hK := hA.obliging.pending a.session _ (List.prefix_refl _)
    rw [hs] at hcalls
    rw [callsOn_append, hcalls] at hK
    rw [callsOn_append, hs, hcalls]
    have hlt := Attempt.sweepsLeft_lt hat.asks hat.settles hstay.symm hfault hK
    exact Nat.le_of_lt_succ (hlt.trans_le (h.left a ha))

theorem Due.idle (h : Due limits K before n xs p) {e : Event} (hcall : e.callOn? = none)
    (hopen : e.opened? = none) : Due limits K before n (xs ++ [e]) p := by
  refine ⟨?_, h.held, h.limits_eq, fun a ha => ?_⟩
  · rw [← List.append_assoc]
    exact h.ledger.idle hcall hopen
  · simpa [hcall] using h.left a ha

/-- A job is placed on its session, and has all of its sweeps left. -/
theorem Due.place (h : Due limits K before (limits.submissions * (K + 1)) xs p)
    (hA : Served K before (xs ++ ys)) {config : JobConfig} {answer : Except Fault Attempt}
    (hplace : Places config p ys answer q) :
    ∃ a, answer = .ok a ∧ Due limits K before (limits.submissions * (K + 1)) (xs ++ ys) q := by
  have hnodup := hA.nodup
  rw [← List.append_assoc] at hnodup
  have l := h.ledger.place hplace hnodup
  rw [List.append_assoc] at l
  have hanswer : ∃ a, answer = .ok a := by
    cases hplace with
    | refused => exact (hA.available _ (List.mem_append_right _ List.mem_cons_self)).elim
    | admitted => exact ⟨_, rfl⟩
    | failed hsub =>
        obtain ⟨_, heq⟩ := hsub.of_obliging rfl fun e he => by
          refine hA.obliging.answers e (List.mem_append_right _ ?_)
          exact List.mem_cons_of_mem _ (List.mem_cons_of_mem _ (mem_callsOn.mp he).1)
        cases heq
  obtain ⟨a, rfl⟩ := hanswer
  have hlimits : q.limits = limits := by
    rw [← h.limits_eq]
    exact Moves.limits_eq (.single (.place hplace))
  refine ⟨a, rfl, l, hplace.held h.held, hlimits, ?_⟩
  intro b hb
  have hroster : b ∈ q.roster := List.mem_append_left _ hb
  rcases hplace.opens with ⟨_, _, -, hrefused, -⟩ |
      ⟨session, count, reply, more, c, rfl, -, hlives, -, -, rfl⟩
  · cases hrefused
  · rcases List.mem_append.mp hb with hb | hb
    · -- Those in flight before see no call.
      have hnone : callsOn b.session (.opened session (.ok ()) :: .told (.inFlight count) ::
          .submitted session config reply :: more) = [] :=
        h.ledger.callsOn_of_new (not_mem_openedIn_of_nodup hnodup) hlives
          (List.mem_append_left _ hb)
      rw [callsOn_append, hnone, List.append_nil]
      exact h.left b hb
    · obtain ⟨hused, hlimit⟩ : 0 < b.budget.used ∧ b.budget.limit = limits.submissions := by
        obtain ⟨config, hcourse⟩ := l.course b hroster
        exact ⟨l.begun b hroster, (Attempt.Course.frame hcourse).2.2.trans (hlimits ▸ rfl)⟩
      exact hlimit ▸ Attempt.sweepsLeft_le hused

/-- **With services that keep their word, a pool counts down**, beginning with `K + 1` for each
submission of a job. -/
theorem countdown_of_obliging (limits : PoolLimits) (K : Nat) (before : List Event) :
    Countdown (Served K before) (fun _ _ => True) (limits.submissions * (K + 1))
      (Due limits K before) where
  left := by
    intro xs ys hA
    refine ⟨?_, hA.obliging.left, fun e he => hA.available e (List.mem_append_left _ he)⟩
    have hnodup := hA.nodup
    rw [← List.append_assoc] at hnodup
    exact nodup_openedIn_left hnodup
  mono := fun hle h => { h with left := fun a ha => (h.left a ha).trans hle }
  empty := by
    intro xs p h
    refine List.eq_nil_iff_forall_not_mem.mpr fun a ha => ?_
    exact absurd (h.left a ha) (Nat.not_succ_le_zero _)
  idle := fun h hcall hopen => h.idle hcall hopen
  sweep := fun h hA hsweep => h.sweep hA hsweep
  place := fun h hA _ hplace => h.place hA hplace

end Due

end Pool

end LoadDispatch
