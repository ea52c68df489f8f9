import LoadDispatch.Proofs.Pool.Pass

/-!
# The moves of a pool

Waiting, draining and admitting are made of three kinds of moves: a sweep, an opening with its
first submission, and events that have nothing to do with sessions.  A property that all moves keep
is therefore kept by all of these operations, however they end.

What a *wait* does is less: it opens no session, and calls only sessions that were in flight when
it began (`Waits.among`).  For a walk through a tree this is what makes waits invisible.

All that an owner can do besides is to end the pool and to call an attempt (`Performs.kinds`).
-/

namespace LoadDispatch

namespace Pool

/-- One move of a pool. -/
inductive Move : Pool → List Event → Pool → Prop where
  /-- A sweep, broken off or not. -/
  | sweep {p q : Pool} {events : List Event} {answer : Except Fault Nat} :
    p.Sweeps events answer q → Move p events q
  /-- A session is opened for a job, or cannot be. -/
  | place {p q : Pool} {config : JobConfig} {events : List Event}
      {answer : Except Fault Attempt} : Places config p events answer q → Move p events q
  /-- Something that has nothing to do with sessions. -/
  | idle (p : Pool) {e : Event} : e.callOn? = none → e.opened? = none → Move p [e] p

/-- Any number of moves. -/
abbrev Moves : Pool → List Event → Pool → Prop :=
  Steps Move

variable {p q : Pool} {events : List Event} {passes waits : Nat}

theorem Waits.moves {outcome : Outcome Nat} (h : Waits passes p events outcome q) :
    Moves p events q := by
  induction h with
  | tired p => exact .refl p
  | broken hsweep => exact .single (.sweep hsweep)
  | freed hsweep => exact .single (.sweep hsweep)
  | @again _ _ q _ _ ys _ hsweep _ ih =>
      have hpause : Moves q [.paused q.limits.pollInterval] q := .single (.idle q rfl rfl)
      exact Steps.trans (.single (.sweep hsweep)) (hpause.trans ih)

theorem WaitsForSlot.moves {outcome : Outcome Nat} (h : WaitsForSlot passes p events outcome q) :
    Moves p events q := by
  cases h with
  | idle => exact .refl p
  | waits _ hwaits => exact hwaits.moves

theorem Drains.moves {outcome : Outcome Unit} (h : Drains passes waits p events outcome q) :
    Moves p events q := by
  induction h with
  | done => exact .refl _
  | tired => exact .refl _
  | waited _ hwaits _ ih => exact hwaits.moves.trans ih
  | broken _ hwaits => exact hwaits.moves
  | unfinished _ hwaits => exact hwaits.moves

theorem Admits.moves {config : JobConfig} {outcome : Outcome Attempt}
    (h : Admits passes config p events outcome q) : Moves p events q := by
  cases h with
  | atOnce _ hplace => exact .single (.place hplace)
  | waited _ hwaits hplace => exact hwaits.moves.trans (.single (.place hplace))
  | broken _ hwaits => exact hwaits.moves
  | unfinished _ hwaits => exact hwaits.moves

/-- No move changes the limits. -/
theorem Moves.limits_eq (h : Moves p events q) : q.limits = p.limits := by
  induction h with
  | refl => rfl
  | tail _ last ih =>
      rw [← ih]
      cases last with
      | sweep hsweep => cases hsweep <;> rfl
      | place hplace => cases hplace <;> rfl
      | idle => rfl

/-! ## What an opening brings -/

/-- Either a session cannot be opened, or a job is submitted on it at once, and an attempt lives on
it from then on. -/
theorem Places.opens {config : JobConfig} {answer : Except Fault Attempt}
    (h : Places config p events answer q) :
    (∃ session fault, events = [.opened session (.error fault)] ∧ answer = .error fault ∧ q = p) ∨
      ∃ session count reply more a,
        events = .opened session (.ok ()) :: .told (.inFlight count) ::
          .submitted session config reply :: more ∧
        (∀ e ∈ more, ∃ entry, e = .told (.log entry)) ∧
        (fresh p.limits session config).Lives
          (.told (.inFlight count) :: .submitted session config reply :: more) a ∧
        a.budget.used = 1 ∧ a.released = false ∧ q = { p with inFlight := p.inFlight ++ [a] } := by
  cases h with
  | refused => exact .inl ⟨_, _, rfl, rfl, rfl⟩
  | @admitted session xs _ a hsub =>
      obtain ⟨reply, more, hxs, hmore, hused⟩ := fresh_submits hsub
      have hlives := (Attempt.Lives.told _ (.inFlight (p.inFlight.length + 1)) trivial).append
        (hsub.lives.append (.told _
          (.log (.admitted config.path (p.inFlight.length + 1) p.limits.capacity)) trivial))
      rw [hxs] at hlives
      refine .inr ⟨session, _, reply, _, a, by rw [hxs]; rfl, ?_, hlives, hused, hsub.released_eq,
        rfl⟩
      intro e he
      rcases List.mem_append.mp he with he | he
      · exact hmore e he
      · exact ⟨_, List.mem_singleton.mp he⟩
  | @failed session xs _ a hsub =>
      obtain ⟨reply, more, hxs, hmore, hused⟩ := fresh_submits hsub
      have hlives := (Attempt.Lives.told _ (.inFlight (p.inFlight.length + 1)) trivial).append
        hsub.lives
      rw [hxs] at hlives
      exact .inr ⟨session, _, reply, _, a, by rw [hxs], hmore, hlives, hused, hsub.released_eq,
        rfl⟩

/-! ## What a wait leaves alone -/

/-- A wait calls only sessions in flight, and whoever is in flight in the end was so before. -/
theorem Waits.among {outcome : Outcome Nat} (h : Waits passes p events outcome q) :
    (∀ e ∈ events, e.Among (sessionsOf p.inFlight)) ∧
      (sessionsOf q.inFlight).Sublist (sessionsOf p.inFlight) := by
  induction h with
  | tired => exact ⟨by simp, .refl _⟩
  | broken hsweep => exact hsweep.among
  | freed hsweep => exact hsweep.among
  | again hsweep _ ih =>
      obtain ⟨hfirst, hsub⟩ := hsweep.among
      obtain ⟨hothers, hsub'⟩ := ih
      refine ⟨?_, hsub'.trans hsub⟩
      refine among_append hfirst ?_ (List.Subset.refl _) hsub.subset
      exact List.forall_mem_cons.mpr ⟨trivial, hothers⟩

theorem WaitsForSlot.among {outcome : Outcome Nat} (h : WaitsForSlot passes p events outcome q) :
    (∀ e ∈ events, e.Among (sessionsOf p.inFlight)) ∧
      (sessionsOf q.inFlight).Sublist (sessionsOf p.inFlight) := by
  cases h with
  | idle => exact ⟨by simp, .refl _⟩
  | waits _ hwaits => exact hwaits.among

theorem Drains.among {outcome : Outcome Unit} (h : Drains passes waits p events outcome q) :
    (∀ e ∈ events, e.Among (sessionsOf p.inFlight)) ∧
      (sessionsOf q.inFlight).Sublist (sessionsOf p.inFlight) := by
  induction h with
  | done => exact ⟨by simp, .refl _⟩
  | tired => exact ⟨by simp, .refl _⟩
  | waited _ hwaits _ ih =>
      obtain ⟨hfirst, hsub⟩ := hwaits.among
      obtain ⟨hothers, hsub'⟩ := ih
      refine ⟨?_, hsub'.trans hsub⟩
      exact among_append hfirst hothers (List.Subset.refl _) hsub.subset
  | broken _ hwaits => exact hwaits.among
  | unfinished _ hwaits => exact hwaits.among

/-- Draining returns only with nothing in flight. -/
theorem Drains.inFlight_eq (h : Drains passes waits p events (.returned ()) q) :
    q.inFlight = [] := by
  generalize houtcome : Outcome.returned () = outcome at h
  induction h with
  | done hnil => exact hnil
  | waited _ _ _ ih => exact ih houtcome
  | tired => cases houtcome
  | broken => cases houtcome
  | unfinished => cases houtcome

/-! ## Kinds of operations -/

/-- The owner releases an attempt behind the back of the pool. -/
def Operation.isRelease : Operation → Bool
  | .call _ .release => true
  | _ => false

/-- The pool is closed, or its scope is left. -/
def Operation.isEnd : Operation → Bool
  | .close | .leave _ => true
  | _ => false

/-- An operation is made of moves, or it ends the pool, or it is a call of the owner. -/
theorem Performs.kinds {o : Operation} (h : Performs passes p o events q) :
    (o.isEnd = false ∧ o.isRelease = false ∧ Moves p events q) ∨
      (o.isEnd = true ∧ ∃ answer, Closes p events answer q) ∨
      (o.isEnd = false ∧ ∃ session c, (o.isRelease = false → c ≠ .release) ∧
        Calls session c p events q) := by
  cases h with
  | admitJob hadmit => exact .inl ⟨rfl, rfl, hadmit.moves⟩
  | waitForSlot hwait => exact .inl ⟨rfl, rfl, hwait.moves⟩
  | drain hdrain => exact .inl ⟨rfl, rfl, hdrain.moves⟩
  | close hclose => exact .inr (.inl ⟨rfl, _, hclose⟩)
  | leave _ hclose => exact .inr (.inl ⟨rfl, _, hclose⟩)
  | @call session c _ _ hcall =>
      refine .inr (.inr ⟨rfl, session, c, ?_, hcall⟩)
      rintro ho rfl
      cases ho

theorem Performs.limits_eq {o : Operation} (h : Performs passes p o events q) :
    q.limits = p.limits := by
  rcases h.kinds with ⟨-, -, hmoves⟩ | ⟨-, _, hclose⟩ | ⟨-, _, _, -, hcall⟩
  · exact hmoves.limits_eq
  · cases hclose
    rfl
  · cases hcall <;> rfl

/-- A pool made for `n` submissions of each job grants `n` of them, and at least one. -/
theorem submissions_eq_of_request {capacity n statusChecks : Int} {interval : Float}
    {limits : PoolLimits}
    (h : PoolLimits.ofRequest? capacity n interval statusChecks = .ok limits) :
    limits.submissions = (max 1 n).toNat :=
  (PoolLimits.ofRequest?_eq_ok h).2.1

theorem PerformsAll.limits_eq {ops : List Operation} (h : PerformsAll passes p ops events q) :
    q.limits = p.limits := by
  induction h with
  | nil => rfl
  | cons hfirst _ ih => rw [ih, hfirst.limits_eq]

end Pool

end LoadDispatch
