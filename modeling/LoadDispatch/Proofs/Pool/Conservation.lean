import LoadDispatch.Proofs.Pool.Ownership

/-!
# No job is lost or counted twice

Every attempt that a pool was ever given is in one of four classes: it is in flight, it has left
because its job was seen finished, it has left because its budget was used up, or it was taken out
when the pool was closed.  `Conserved` says that the classes are a partition, what the events show
of an attempt in each, and that the two counters are sizes of classes.  `Shifts` says how an
operation moves attempts between them: who has left stays where it is, only the end of a pool takes
attempts out for that reason, and it takes out all of them.
-/

namespace LoadDispatch

namespace Pool

/-- The sessions of the attempts that have left for a reason, in the order of leaving. -/
def leftFor (p : Pool) (why : Departure) : List Session :=
  sessionsOf ((p.departed.filter (·.why == why)).map (·.attempt))

/-- Where the attempts of a pool are, and what the events so far show of them. -/
structure Conserved (events : List Event) (p : Pool) : Prop where
  /-- No session is opened twice. -/
  distinct : (openedIn events).Nodup
  /-- Every session that was opened is in exactly one of four classes. -/
  classes : (sessionsOf p.inFlight ++
    (p.leftFor .completed ++ (p.leftFor .abandoned ++ p.leftFor .closed))).Perm (openedIn events)
  /-- Those in flight are in the order of admission. -/
  order : (sessionsOf p.inFlight).Sublist (openedIn events)
  /-- The last query on a completed one was answered by a finished status; then it was closed. -/
  finished : ∀ s ∈ p.leftFor .completed, ∃ before job status answer,
    JobStatus.isFinished status = true ∧
      callsOn s events = before ++ [.polled s job (.ok (.known status)), .closed s answer]
  /-- An abandoned one was submitted as often as its budget allows. -/
  spent : ∀ s ∈ p.leftFor .abandoned,
    (callsOn s events).countP Event.isSubmission = p.limits.submissions
  /-- Whoever has left was closed, once. -/
  closed : ∀ why, ∀ s ∈ p.leftFor why, closings s events = 1
  /-- The finished ones are counted. -/
  completed : p.completed = (p.leftFor .completed).length
  /-- The abandoned ones are counted. -/
  abandoned : p.abandoned = (p.leftFor .abandoned).length

/-- How an operation moves attempts between the classes. -/
structure Shifts (o : Operation) (p q : Pool) : Prop where
  /-- Who has left stays where it is. -/
  kept : ∀ why, p.leftFor why <+: q.leftFor why
  /-- The end of a pool takes out all in flight, and only for that reason. -/
  ended : o.isEnd = true → q.inFlight = [] ∧
    q.leftFor .closed = p.leftFor .closed ++ sessionsOf p.inFlight ∧
    q.leftFor .completed = p.leftFor .completed ∧ q.leftFor .abandoned = p.leftFor .abandoned
  /-- No other operation takes anyone out for that reason. -/
  swept : o.isEnd = false → q.leftFor .closed = p.leftFor .closed

/-! ## The four classes -/

section Classes

variable {p q : Pool} {events : List Event}

theorem mem_leftFor {s : Session} {why : Departure} :
    s ∈ p.leftFor why ↔ ∃ x ∈ p.departed, x.why = why ∧ x.attempt.session = s := by
  simp [leftFor, sessionsOf, and_assoc]

/-- The reasons for leaving are a partition. -/
theorem perm_reasons (xs : List Departed) :
    (xs.filter (·.why == .completed) ++
      (xs.filter (·.why == .abandoned) ++ xs.filter (·.why == .closed))).Perm xs := by
  induction xs with
  | nil => exact .refl _
  | cons x xs ih =>
      obtain ⟨why, a⟩ := x
      match why with
      | .completed => exact ih.cons _
      | .abandoned => exact List.perm_middle.trans (ih.cons _)
      | .closed =>
          show (_ ++ (_ ++ _ :: _)).Perm _
          -- The new one stands behind two classes; taken as one they are in front of it.
          rw [← List.append_assoc]
          refine List.perm_middle.trans ?_
          rw [List.append_assoc]
          exact ih.cons _

theorem perm_leftFor (p : Pool) :
    (p.leftFor .completed ++ (p.leftFor .abandoned ++ p.leftFor .closed)).Perm
      (sessionsOf (p.departed.map (·.attempt))) := by
  simp only [leftFor, ← sessionsOf_append, ← List.map_append]
  exact ((perm_reasons p.departed).map _).map _

theorem length_leftFor (p : Pool) (why : Departure) :
    (p.leftFor why).length = p.departed.countP (·.why == why) := by
  simp [leftFor, sessionsOf, List.countP_eq_length_filter]

/-- **A right ledger is a conserved pool.** -/
theorem Ledger.conserved (l : Ledger events p) (hn : (openedIn events).Nodup) :
    Conserved events p := by
  refine ⟨hn, ?_, l.order, ?_, ?_, ?_, ?_, ?_⟩
  · refine List.Perm.trans ?_ l.roster
    rw [Pool.roster, sessionsOf_append]
    exact (perm_leftFor p).append_left _
  · intro s hs
    obtain ⟨⟨why, a⟩, hx, rfl, rfl⟩ := mem_leftFor.mp hs
    exact (l.left _ hx).2
  · intro s hs
    obtain ⟨⟨why, a⟩, hx, rfl, rfl⟩ := mem_leftFor.mp hs
    obtain ⟨config, hcourse⟩ := l.course a (List.mem_append_right _ (List.mem_map_of_mem hx))
    -- The attempt began with nothing used, so its budget has counted all of its submissions.
    have hused : a.budget.used = 0 + _ := Attempt.Course.count_submissions hcourse
    have hlimit : a.budget.limit = p.limits.submissions := (Attempt.Course.frame hcourse).2.2
    have hspent : a.budget.used = a.budget.limit := (l.left _ hx).2
    rw [hused, hlimit, Nat.zero_add] at hspent
    exact hspent
  · intro why s hs
    obtain ⟨x, hx, -, rfl⟩ := mem_leftFor.mp hs
    rw [l.closings_eq (List.mem_append_right _ (List.mem_map_of_mem hx)), (l.left x hx).1]
    rfl
  · rw [l.completed, length_leftFor]
  · rw [l.abandoned, length_leftFor]

end Classes

/-! ## Leaving -/

section Leaving

variable {p q : Pool} {before events : List Event}

theorem leftFor_append {gone : List Departed} (h : q.departed = p.departed ++ gone)
    (why : Departure) : q.leftFor why =
      p.leftFor why ++ sessionsOf ((gone.filter (·.why == why)).map (·.attempt)) := by
  rw [leftFor, h, List.filter_append, List.map_append, sessionsOf_append]
  rfl

/-- Moves take nobody out because the pool is closed. -/
theorem Moves.departed (h : Moves p events q) (l : Ledger before p)
    (hn : (openedIn (before ++ events)).Nodup) :
    ∃ gone, q.departed = p.departed ++ gone ∧ ∀ x ∈ gone, x.why ≠ .closed := by
  refine (l.moves_keep h hn
    (I := fun r => ∃ gone, r.departed = p.departed ++ gone ∧ ∀ x ∈ gone, x.why ≠ .closed)
    ⟨[], by simp, by simp⟩ ?_).2
  rintro xs r ys r' l hn hmove ⟨gone, hgone, hwhy⟩
  cases hmove with
  | sweep hsweep =>
      obtain ⟨more, t⟩ := hsweep.turn (l.nodup_inFlight hn)
      refine ⟨gone ++ more, by rw [t.departed, hgone, List.append_assoc], ?_⟩
      intro x hx
      rcases List.mem_append.mp hx with hx | hx
      · exact hwhy x hx
      · obtain ⟨a, -, hpasses⟩ := t.leaves x hx
        exact hpasses.released.2
  | place hplace =>
      refine ⟨gone, ?_, hwhy⟩
      cases hplace <;> exact hgone
  | idle => exact ⟨gone, hgone, hwhy⟩

/-- Who leaves in an operation, and why. -/
theorem Performs.departed {passes : Nat} {o : Operation} (h : Performs passes p o events q)
    (l : Ledger before p) (hn : (openedIn (before ++ events)).Nodup) :
    ∃ gone, q.departed = p.departed ++ gone ∧
      ((o.isEnd = false ∧ ∀ x ∈ gone, x.why ≠ .closed) ∨
        (o.isEnd = true ∧ q.inFlight = [] ∧
          sessionsOf (gone.map (·.attempt)) = sessionsOf p.inFlight ∧
          ∀ x ∈ gone, x.why = .closed)) := by
  have hn' := nodup_openedIn_left hn
  rcases h.kinds with ⟨hgoes, -, hmoves⟩ | ⟨hends, _, hclose⟩ | ⟨hgoes, _, _, -, hcall⟩
  · obtain ⟨gone, hgone, hwhy⟩ := hmoves.departed l hn
    exact ⟨gone, hgone, .inl ⟨hgoes, hwhy⟩⟩
  · obtain ⟨gone, t, hrest⟩ := hclose.turn (l.nodup_inFlight hn')
    exact ⟨gone, t.departed, .inr ⟨hends, hrest⟩⟩
  · have t := l.turn_of_calls hcall hn'
    exact ⟨[], t.departed, .inl ⟨hgoes, by simp⟩⟩

/-- **Every operation moves attempts as it should.** -/
theorem Performs.shifts {passes : Nat} {o : Operation} (h : Performs passes p o events q)
    (l : Ledger before p) (hn : (openedIn (before ++ events)).Nodup) : Shifts o p q := by
  obtain ⟨gone, hgone, hcase⟩ := h.departed l hn
  -- Attempts that all left for other reasons add nothing to a class.
  have hnone : ∀ why, (∀ x ∈ gone, x.why ≠ why) → q.leftFor why = p.leftFor why := by
    intro why hne
    have hnil : gone.filter (·.why == why) = [] := by
      refine List.filter_eq_nil_iff.mpr fun x hx => ?_
      simpa using hne x hx
    rw [leftFor_append hgone, hnil]
    exact List.append_nil _
  refine ⟨?_, ?_, ?_⟩
  · intro why
    exact ⟨_, (leftFor_append hgone why).symm⟩
  · intro hend
    rcases hcase with ⟨hend', -⟩ | ⟨-, hnil, hsessions, hwhy⟩
    · rw [hend] at hend'
      cases hend'
    · refine ⟨hnil, ?_, hnone _ ?_, hnone _ ?_⟩
      · have hall : gone.filter (·.why == .closed) = gone :=
          List.filter_eq_self.mpr fun x hx => by rw [hwhy x hx]; rfl
        rw [leftFor_append hgone, hall, hsessions]
      · intro x hx
        rw [hwhy x hx]
        decide
      · intro x hx
        rw [hwhy x hx]
        decide
  · intro hend
    rcases hcase with ⟨-, hwhy⟩ | ⟨hend', -⟩
    · exact hnone _ hwhy
    · rw [hend] at hend'
      cases hend'

end Leaving

/-! ## Runs -/

section Runs

variable {p q : Pool} {events : List Event} {passes : Nat}

/-- One operation more is performed where the others have led to. -/
theorem performAll_concat {m : Type → Type} [Monad m] [LawfulMonad m] (env : Environment m)
    (passes : Nat) (p : Pool) (ops : List Operation) (o : Operation) :
    p.performAll env passes (ops ++ [o]) = (do
      let r ← p.performAll env passes ops
      let r' ← r.2.perform env passes o
      pure (r.1 ++ [r'.1], r'.2)) := by
  induction ops generalizing p with
  | nil => simp [performAll]
  | cons o' rest ih => simp [performAll, ih]

variable {ω : Type}

/-- A run with one operation more is a run, and that operation at its end. -/
theorem run_concat (w : World ω) (passes : Nat) (limits : PoolLimits) (ops : List Operation)
    (o : Operation) (d : Desk ω) :
    ∃ more, (run w passes limits (ops ++ [o]) d).2 = (run w passes limits ops d).2 ++ more ∧
      Performs passes (run w passes limits ops d).1 o more
        (run w passes limits (ops ++ [o]) d).1 := by
  obtain ⟨⟨⟨outcomes, p⟩, d₁⟩, hfirst⟩ :
      ∃ r, ({ limits } : Pool).performAll w.environment passes ops d = r := ⟨_, rfl⟩
  obtain ⟨hrecords, -⟩ := (performAll_ensures passes { limits } ops).of_run hfirst
  obtain ⟨⟨outcome, q⟩, more, d₂, hd, hrecords', h⟩ := perform_ensures passes p o d₁
  have hlast : ({ limits } : Pool).performAll w.environment passes (ops ++ [o]) d =
      ((outcomes ++ [outcome], q), d₂) := by
    rw [performAll_concat]
    exact (run_bind hfirst).trans (run_bind hd)
  refine ⟨more, ?_, ?_⟩
  · rw [run, run, hfirst, hlast]
    exact (hrecords.append hrecords').eventsSince
  · rw [run, run, hfirst, hlast]
    exact h

end Runs

end Pool

end LoadDispatch
