import LoadDispatch.Proofs.Attempt.Rules
import LoadDispatch.Proofs.Pool.Countdown

/-!
# The lives of the attempts in a pool

A move of a pool that ends without a fault is an `Advance`.  Whatever operation returns is made of
advances (`Waits.advances`, `Drains.advances`, `Admits.advances`), and under advances nothing
interferes with the life of an attempt: it is submitted when it is placed, each sweep is one round
of it, and it ends when the attempt leaves.

`Chronicle` says so of a pool and the events so far.  Of an attempt that has left it says that its
calls were a lifetime.  Of one in flight it cannot say that yet; it says that they are the beginning
of one, whatever rounds follow.  In both cases there are no more rounds than there were sweeps.
-/

namespace LoadDispatch

/-- What a pool does between two openings asks for no session. -/
theorem Event.Among.asked?_eq_none {ss : List Session} {e : Event} (he : e.Among ss) :
    e.asked? = none := by
  cases e with
  | opened => exact he.elim
  | _ => rfl

/-- What asks for no session opens none. -/
theorem Event.opened?_eq_none_of_asked? {e : Event} (h : e.asked? = none) : e.opened? = none := by
  cases e with
  | opened => cases h
  | _ => rfl

namespace Pool

/-- A move that ends without a fault. -/
inductive Advance : Pool → List Event → Pool → Prop where
  /-- A sweep goes through. -/
  | sweep {p q : Pool} {events : List Event} {removed : Nat} :
    p.Sweeps events (.ok removed) q → Advance p events q
  /-- A job is placed. -/
  | place {p q : Pool} {config : JobConfig} {events : List Event} {a : Attempt} :
    Places config p events (.ok a) q → Advance p events q
  /-- Something that has nothing to do with sessions. -/
  | idle (p : Pool) {e : Event} : e.callOn? = none → e.asked? = none → Advance p [e] p

/-- Any number of moves that end without a fault. -/
abbrev Advances : Pool → List Event → Pool → Prop :=
  Steps Advance

section Advances

variable {p q : Pool} {events : List Event} {passes waits : Nat}

theorem Advance.move (h : Advance p events q) : Move p events q := by
  cases h with
  | sweep hsweep => exact .sweep hsweep
  | place hplace => exact .place hplace
  | idle hcall hasked => exact .idle p hcall (Event.opened?_eq_none_of_asked? hasked)

theorem Waits.advances {removed : Nat} (h : Waits passes p events (.returned removed) q) :
    Advances p events q := by
  generalize houtcome : Outcome.returned removed = outcome at h
  induction h with
  | tired | broken => cases houtcome
  | freed hsweep => exact .single (.sweep hsweep)
  | @again _ _ q _ _ ys _ hsweep _ ih =>
      have hpause : Advances q [.paused q.limits.pollInterval] q := .single (.idle q rfl rfl)
      exact Steps.trans (.single (.sweep hsweep)) (hpause.trans (ih houtcome))

theorem WaitsForSlot.advances {removed : Nat}
    (h : WaitsForSlot passes p events (.returned removed) q) : Advances p events q := by
  obtain - | ⟨-, hwaits⟩ := h
  exact hwaits.advances

theorem Drains.advances (h : Drains passes waits p events (.returned ()) q) :
    Advances p events q := by
  generalize houtcome : Outcome.returned () = outcome at h
  induction h with
  | done => exact .refl _
  | waited _ hwaits _ ih => exact hwaits.advances.trans (ih houtcome)
  | tired | broken | unfinished => cases houtcome

theorem Admits.advances {config : JobConfig} {a : Attempt}
    (h : Admits passes config p events (.returned a) q) : Advances p events q := by
  generalize houtcome : Outcome.returned a = outcome at h
  have hplaced : ∀ {p q : Pool} {events : List Event} {answer : Except Fault Attempt},
      Outcome.returned a = .ofExcept answer → Places config p events answer q →
      Advances p events q := by
    intro p q events answer heq hplace
    cases answer with
    | error => cases heq
    | ok => exact .single (.place hplace)
  cases h with
  | atOnce _ hplace => exact hplaced houtcome hplace
  | waited _ hwaits hplace => exact hwaits.advances.trans (hplaced houtcome hplace)
  | broken | unfinished => cases houtcome

/-- If a session is asked for in an advance, it is opened. -/
theorem Advance.askedIn_eq (h : Advance p events q) : askedIn events = openedIn events := by
  cases h with
  | sweep hsweep =>
      rw [openedIn_eq_nil hsweep.among.1]
      exact List.filterMap_eq_nil_iff.mpr fun e he => (hsweep.among.1 e he).asked?_eq_none
  | place hplace =>
      rcases hplace.opens with ⟨_, _, -, hrefused, -⟩ | ⟨session, _, _, more, _, rfl, hmore, -⟩
      · cases hrefused
      · have hquiet : askedIn more = [] ∧ openedIn more = [] := by
          refine ⟨List.filterMap_eq_nil_iff.mpr ?_, List.filterMap_eq_nil_iff.mpr ?_⟩
          all_goals
            intro e he
            obtain ⟨_, rfl⟩ := hmore e he
            rfl
        show session :: askedIn more = session :: openedIn more
        rw [hquiet.1, hquiet.2]
  | idle _ hasked =>
      rw [askedIn, openedIn, List.filterMap_cons, List.filterMap_cons, hasked,
        Event.opened?_eq_none_of_asked? hasked]
      rfl

theorem Advances.askedIn_eq (h : Advances p events q) : askedIn events = openedIn events := by
  induction h with
  | refl => rfl
  | tail _ last ih => rw [askedIn_append, openedIn_append, ih, last.askedIn_eq]

end Advances

/-! ## What the events say of lives -/

section Places

variable {p q : Pool} {events : List Event} {config : JobConfig} {answer : Except Fault Attempt}

/-- Either a session cannot be opened, or it is, and the answer is that to the first submission. -/
theorem Places.submits (h : Places config p events answer q) :
    (∃ session fault, events = [.opened session (.error fault)] ∧ answer = .error fault ∧ q = p) ∨
      ∃ session more own reply a, events = .opened session (.ok ()) :: more ∧
        (fresh p.limits session config).Submits own reply a ∧
        (fresh p.limits session config).Lives more a ∧
        callsOn session more = callsOn session own ∧ (answer = reply.map fun _ => a) ∧
        q = { p with inFlight := p.inFlight ++ [a] } := by
  have hfirst : ∀ session, (fresh p.limits session config).Lives
      [.told (.inFlight (p.inFlight.length + 1))] (fresh p.limits session config) := fun session =>
    .told _ (.inFlight (p.inFlight.length + 1)) trivial
  cases h with
  | refused => exact .inl ⟨_, _, rfl, rfl, rfl⟩
  | admitted hsub =>
      refine .inr ⟨_, _, _, _, _, rfl, hsub, ?_, by simp, rfl, rfl⟩
      exact (hfirst _).append (hsub.lives.append (.told _
        (.log (.admitted config.path (p.inFlight.length + 1) p.limits.capacity)) trivial))
  | failed hsub =>
      exact .inr ⟨_, _, _, _, _, rfl, hsub, (hfirst _).append hsub.lives, by simp, rfl, rfl⟩

end Places

/-- The part of an attempt in a sweep that goes through is a round of its life. -/
theorem Visits.round {p q : Pool} {events calls : List Event} {removed : Nat} {a b : Attempt}
    {why : Option Departure} (h : p.Visits events (.ok removed) q a calls b why) :
    a.Round calls b why := by
  obtain ⟨xs, status, ys, first, hat, hfault, rfl, rfl, rfl⟩ := h.of_ok
  exact .mk hat.asks hat.settles hfault

/-- The attempts of a pool have lived by rounds. -/
structure Chronicle (events : List Event) (p : Pool) : Prop where
  /-- The ledger is right. -/
  ledger : Ledger events p
  /-- Whatever rounds an attempt in flight still goes through, with what was before they are a
  lifetime. -/
  inFlight : ∀ a ∈ p.inFlight, ∀ n rest b why, Attempt.Leaves n a rest b why →
    (fresh p.limits a.session a.config).Lifetime (n + sweepsIn events)
      (callsOn a.session events ++ rest) b why
  /-- The calls of an attempt that has left are a lifetime. -/
  departed : ∀ x ∈ p.departed,
    (fresh p.limits x.attempt.session x.attempt.config).Lifetime (sweepsIn events)
      (callsOn x.attempt.session events) x.attempt x.why

section Chronicle

variable {p q : Pool} {xs ys : List Event}

theorem Chronicle.initial (limits : PoolLimits) : Chronicle [] { limits } := by
  refine ⟨.initial limits, ?_, ?_⟩
  · rintro a ⟨⟩
  · rintro x ⟨⟩

theorem Chronicle.sweep (h : Chronicle xs p) (hn : (openedIn xs).Nodup) {removed : Nat}
    (hsweep : p.Sweeps ys (.ok removed) q) (l : Ledger (xs ++ ys) q) : Chronicle (xs ++ ys) q := by
  obtain ⟨gone, t⟩ := hsweep.visits (h.ledger.nodup_inFlight hn)
  have hsweeps : sweepsIn (xs ++ ys) = sweepsIn xs + 1 := by
    rw [sweepsIn_append, hsweep.sweepsIn_eq]
  refine ⟨l, ?_, ?_⟩
  · intro b hb n rest c why hleaves
    obtain ⟨a, ha, hvisit⟩ := t.stays b hb
    obtain ⟨hs, hc, -⟩ := hvisit.round.course.frame
    have hlife := h.inFlight a ha _ _ _ _ (.later hvisit.round hleaves)
    rw [t.limits, hsweeps, callsOn_append, hs, hc]
    rw [hs, ← List.append_assoc] at hlife
    exact hlife.mono (by omega)
  · intro x hx
    rw [t.departed, List.mem_append] at hx
    rw [t.limits, hsweeps, callsOn_append]
    rcases hx with hx | hx
    · rw [h.ledger.callsOn_departed hn t.among hx, List.append_nil]
      exact (h.departed x hx).mono (Nat.le_succ _)
    · obtain ⟨a, ha, hvisit⟩ := t.leaves x hx
      obtain ⟨hs, hc, -⟩ := hvisit.round.course.frame
      have hlife := h.inFlight a ha 1 _ _ _ (.now hvisit.round)
      rw [hs] at hlife
      rw [hs, hc]
      exact hlife.mono (Nat.add_comm _ _).le

theorem Chronicle.place (h : Chronicle xs p) (hn : (openedIn (xs ++ ys)).Nodup)
    {config : JobConfig} {a : Attempt} (hplace : Places config p ys (.ok a) q)
    (l : Ledger (xs ++ ys) q) : Chronicle (xs ++ ys) q := by
  rcases hplace.submits with ⟨_, _, -, hrefused, -⟩ |
      ⟨session, more, own, reply, b, rfl, hsub, hlives, hcalls, hanswer, rfl⟩
  · cases hrefused
  · have hnew := not_mem_openedIn_of_nodup hn
    -- All other attempts see no call.
    have hold : ∀ c ∈ p.roster, callsOn c.session (.opened session (.ok ()) :: more) = [] :=
      fun c hc => h.ledger.callsOn_of_new hnew hlives hc
    have hle : sweepsIn xs ≤ sweepsIn (xs ++ .opened session (.ok ()) :: more) := by
      rw [sweepsIn_append]
      exact Nat.le_add_right _ _
    refine ⟨l, ?_, ?_⟩
    · intro c hc n rest d why hleaves
      rw [callsOn_append]
      rcases List.mem_append.mp hc with hc | hc
      · rw [hold c (List.mem_append_left _ hc), List.append_nil]
        exact (h.inFlight c hc n rest d why hleaves).mono (by omega)
      · obtain rfl := List.mem_singleton.mp hc
        obtain ⟨hs, hconfig, -⟩ := hlives.course.frame
        cases reply with
        | error => cases hanswer
        | ok =>
            rw [hs, hconfig, fresh_session, h.ledger.callsOn_eq_nil hnew, List.nil_append,
              callsOn_cons, if_neg (by simp), hcalls]
            exact .mk hsub (hleaves.mono (Nat.le_add_right _ _))
    · intro x hx
      rw [callsOn_append, hold _ (List.mem_append_right _ (List.mem_map_of_mem hx)),
        List.append_nil]
      exact (h.departed x hx).mono hle

theorem Chronicle.idle (h : Chronicle xs p) {e : Event} (hcall : e.callOn? = none)
    (l : Ledger (xs ++ [e]) p) : Chronicle (xs ++ [e]) p := by
  have hcalls : ∀ s, callsOn s (xs ++ [e]) = callsOn s xs := by
    intro s
    simp [hcall]
  have hle : sweepsIn xs ≤ sweepsIn (xs ++ [e]) := by
    rw [sweepsIn_append]
    exact Nat.le_add_right _ _
  refine ⟨l, ?_, ?_⟩
  · intro a ha n rest b why hleaves
    rw [hcalls]
    exact (h.inFlight a ha n rest b why hleaves).mono (by omega)
  · intro x hx
    rw [hcalls]
    exact (h.departed x hx).mono hle

/-- **Advances keep a chronicle.** -/
theorem Advances.chronicle (h : Advances p ys q) (hp : Chronicle xs p)
    (hn : (openedIn (xs ++ ys)).Nodup) : Chronicle (xs ++ ys) q := by
  refine Steps.keeps (I := fun xs p => (openedIn xs).Nodup → Chronicle xs p) ?_ (fun _ => hp) h hn
  intro xs p ys q ih hadvance hn
  have hn' := nodup_openedIn_left hn
  have hp := ih hn'
  have l := hp.ledger.move hadvance.move hn
  cases hadvance with
  | sweep hsweep => exact hp.sweep hn' hsweep l
  | place hplace => exact hp.place hn hplace l
  | idle hcall => exact hp.idle hcall l

end Chronicle

end Pool

end LoadDispatch
