import LoadDispatch.Proofs.Pool.Lifetime

/-!
# A run beside another

Take a run that has ended, with its record of events and the pool that it has left, and another one
that is under way.  If the sessions of both follow the same rules, the first run foretells the
second, although the two share no schedule: a sweep may come earlier or later, and with others in
flight.

`Shadow` says so of one attempt that is still in flight: it is the twin of the attempt that had its
session in the first run, as that was at some moment of its life, and it has as many rounds ahead of
it.  Once it has left, it has left for the same reason, with the same calls behind it (`Matched`).
`Shadows` says both of a whole pool.

The rounds ahead count down (`countdown_of_record`): every sweep is a round for all in flight, goes
through since it did in the first run, and so the second run needs no more patience than there were
sweeps in the first.
-/

namespace LoadDispatch

namespace Pool

/-! ## One attempt -/

/-- An attempt in flight, with the calls on its session so far, is where the one with its session
was at some moment of a run that has ended, and leaves within `n` rounds as that did. -/
inductive Shadow (record : List Event) (r : Pool) (n : Nat) (a : Attempt) (calls : List Event) :
    Prop where
  /-- The calls of the other one until that moment, and the rest. -/
  | mk {y : Departed} {past rest : List Event} {b : Attempt} :
    y ∈ r.departed → callsOn a.session record = past ++ rest → b.Twin past a calls →
    b.Leaves n rest y.attempt y.why → Shadow record r n a calls

/-- An attempt has left as the one with its session did in a run that has ended. -/
def Matched (record : List Event) (r : Pool) (s : Session) (why : Departure)
    (calls : List Event) : Prop :=
  ∃ y ∈ r.departed, y.why = why ∧ y.attempt.session = s ∧
    history calls = history (callsOn s record)

section Shadow

variable {rules : SessionRules} {record calls own asked : List Event} {r : Pool} {n : Nat}
  {a : Attempt}

theorem Shadow.mono {n' : Nat} (h : Shadow record r n a calls) (hle : n ≤ n') :
    Shadow record r n' a calls := by
  obtain ⟨hy, hcalls, t, hleaves⟩ := h
  exact .mk hy hcalls t (hleaves.mono hle)

/-- A shadow with a round ahead of it has a status. -/
theorem Shadow.has_status (h : Shadow record r (n + 1) a calls) (hrecord : rules.Obeyed record)
    {answer : Except Fault PolledStatus} (hask : a.Asks own answer)
    (hf : rules.Follows a.session (calls ++ callsOn a.session own)) :
    ∃ status, answer = .ok status := by
  obtain ⟨-, hcalls, t, hleaves⟩ := h
  have hf₁ := hrecord.calls a.session
  rw [hcalls] at hf₁
  rw [t.session] at hf hf₁
  exact t.has_status hleaves hask hf₁ hf

/-- **A shadow goes through its round**: without a fault, and it leaves as it is foretold or has
one round less ahead of it. -/
theorem Shadow.round (h : Shadow record r (n + 1) a calls) (hrecord : rules.Obeyed record)
    {status : PolledStatus} {first : Settlement} (hask : a.Asks asked (.ok status))
    (hset : a.Settles status own first)
    (hf : rules.Follows a.session
      (calls ++ (callsOn a.session asked ++ callsOn a.session own))) :
    first.fault = none ∧
      (∀ why, first.departure = some why → Matched record r a.session why
        (calls ++ (callsOn a.session asked ++ callsOn a.session own))) ∧
      (first.departure = none → Shadow record r n first.attempt
        (calls ++ (callsOn a.session asked ++ callsOn a.session own))) := by
  have hs : first.attempt.session = a.session := hset.lives.course.session_eq
  obtain ⟨hy, hcalls, t, hleaves⟩ := h
  have hf₁ := hrecord.calls a.session
  rw [hcalls] at hf₁
  rw [t.session] at hf hf₁
  obtain ⟨hfault, ⟨hdeparture, t'⟩ | ⟨hdeparture, b', done, rest, rfl, hleaves', t'⟩⟩ :=
    t.leaves hleaves hask hset hf₁ hf
  · rw [← t.session] at t'
    refine ⟨hfault, ?_, fun hstay => ?_⟩
    · intro why hwhy
      rw [hdeparture] at hwhy
      cases hwhy
      exact ⟨_, hy, rfl, t'.session.symm.trans hs, hcalls ▸ t'.history⟩
    · rw [hdeparture] at hstay
      cases hstay
  · rw [← t.session] at t'
    refine ⟨hfault, fun why hwhy => ?_, fun _ => ?_⟩
    · rw [hdeparture] at hwhy
      cases hwhy
    · rw [← List.append_assoc, ← hs] at hcalls
      exact .mk hy hcalls t' hleaves'

end Shadow

/-! ## All attempts -/

/-- A pool at some moment of a run, beside one that has ended.  Everyone in flight has `n` rounds
ahead of it at most. -/
structure Shadows (record : List Event) (r : Pool) (limits : PoolLimits) (n : Nat)
    (events : List Event) (p : Pool) : Prop where
  /-- The ledger is right. -/
  ledger : Ledger events p
  /-- The limits are the same. -/
  limits_eq : p.limits = limits
  /-- Those in flight are shadows. -/
  inFlight : ∀ a ∈ p.inFlight, Shadow record r n a (callsOn a.session events)
  /-- Those that have left have left as is foretold. -/
  departed : ∀ x ∈ p.departed,
    Matched record r x.attempt.session x.why (callsOn x.attempt.session events)

/-- A job and a session are foretold: the session is opened, and an attempt has lived on it with the
job. -/
structure Foretold (rules : SessionRules) (record : List Event) (r : Pool) (limits : PoolLimits)
    (session : Session) (config : JobConfig) : Prop where
  /-- The session is opened. -/
  opening : rules.connect session = .ok ()
  /-- The calls on it are a lifetime. -/
  lifetime : ∃ y ∈ r.departed, (fresh limits session config).Lifetime (sweepsIn record)
    (callsOn session record) y.attempt y.why

/-- Sessions are different and follow rules. -/
structure Ruled (rules : SessionRules) (events : List Event) : Prop where
  /-- No session is opened twice. -/
  nodup : (openedIn events).Nodup
  /-- All answers are those of the rules. -/
  obeyed : rules.Obeyed events

section Shadows

variable {rules : SessionRules} {record xs ys : List Event} {r p q : Pool} {limits : PoolLimits}
  {n : Nat}

theorem Ruled.left (h : Ruled rules (xs ++ ys)) : Ruled rules xs :=
  ⟨nodup_openedIn_left h.nodup, h.obeyed.left⟩

theorem Shadows.initial (limits : PoolLimits) : Shadows record r limits n [] { limits } := by
  refine ⟨.initial limits, rfl, ?_, ?_⟩
  · rintro a ⟨⟩
  · rintro x ⟨⟩

/-- A sweep goes through, since nobody can be to blame for a fault. -/
theorem Shadows.sweep_ok (h : Shadows record r limits (n + 1) xs p) (hrecord : rules.Obeyed record)
    (hA : Ruled rules (xs ++ ys)) {answer : Except Fault Nat} (hsweep : p.Sweeps ys answer q) :
    ∃ removed, answer = .ok removed := by
  have hn := h.ledger.nodup_inFlight hA.left.nodup
  cases answer with
  | ok removed => exact ⟨removed, rfl⟩
  | error fault =>
      rcases hsweep.blame hn with
        ⟨a, ha, own, hask, hcalls⟩ | ⟨a, asked, status, own, first, hat, hfault⟩
      · have hf := hA.obeyed.calls a.session
        rw [callsOn_append, hcalls] at hf
        obtain ⟨_, heq⟩ := (h.inFlight a ha).has_status hrecord hask hf
        cases heq
      · have hf := hA.obeyed.calls a.session
        rw [callsOn_append, hat.calls_eq hn] at hf
        obtain ⟨hnone, -⟩ := (h.inFlight a hat.mem).round hrecord hat.asks hat.settles hf
        rw [hnone] at hfault
        cases hfault

theorem Shadows.sweep (h : Shadows record r limits (n + 1) xs p) (hrecord : rules.Obeyed record)
    (hA : Ruled rules (xs ++ ys)) {answer : Except Fault Nat} (hsweep : p.Sweeps ys answer q) :
    ∃ removed, answer = .ok removed ∧ Shadows record r limits n (xs ++ ys) q := by
  have hn := h.ledger.nodup_inFlight hA.left.nodup
  obtain ⟨removed, rfl⟩ := h.sweep_ok hrecord hA hsweep
  obtain ⟨gone, t⟩ := hsweep.visits hn
  -- What became of an attempt in flight, told by its session.
  have hround : ∀ {a calls b why}, a ∈ p.inFlight →
      p.Visits ys (.ok removed) q a calls b why →
      (∀ reason, why = some reason →
        Matched record r b.session reason (callsOn b.session (xs ++ ys))) ∧
      (why = none → Shadow record r n b (callsOn b.session (xs ++ ys))) := by
    intro a calls b why ha hvisit
    obtain ⟨asked, status, own, first, hat, -, -, rfl, rfl⟩ := hvisit.of_ok
    have hs : first.attempt.session = a.session := hat.settles.lives.course.session_eq
    have hf := hA.obeyed.calls a.session
    rw [callsOn_append, hat.calls_eq hn] at hf
    rw [hs, callsOn_append, hat.calls_eq hn]
    exact ((h.inFlight a ha).round hrecord hat.asks hat.settles hf).2
  refine ⟨removed, rfl, h.ledger.move (.sweep hsweep) hA.nodup, t.limits.trans h.limits_eq, ?_, ?_⟩
  · intro b hb
    obtain ⟨a, ha, hvisit⟩ := t.stays b hb
    exact (hround ha hvisit).2 rfl
  · intro x hx
    rw [t.departed, List.mem_append] at hx
    rcases hx with hx | hx
    · rw [callsOn_append, h.ledger.callsOn_departed hA.left.nodup t.among hx, List.append_nil]
      exact h.departed x hx
    · obtain ⟨a, ha, hvisit⟩ := t.leaves x hx
      exact (hround ha hvisit).1 _ rfl

/-- Twins from the beginning: a job is submitted as it was before. -/
theorem Foretold.submits {session : Session} {config : JobConfig} {own : List Event}
    {reply : Except Fault Bool} {a : Attempt} (h : Foretold rules record r limits session config)
    (hrecord : rules.Obeyed record) (hsub : (fresh limits session config).Submits own reply a)
    (hf : rules.Follows session (callsOn session own)) :
    (∃ granted, reply = .ok granted) ∧
      Shadow record r (sweepsIn record) a (callsOn session own) := by
  have hs : a.session = session := hsub.lives.course.session_eq
  obtain ⟨-, y, hy, hlife⟩ := h
  generalize hcalls : callsOn session record = calls at hlife
  obtain ⟨hsub₁, hleaves⟩ := hlife
  have hf₁ := hrecord.calls session
  rw [hcalls] at hf₁
  obtain ⟨rfl, t⟩ := (Attempt.Twin.refl (fresh limits session config) []).submits hsub₁ hsub rfl
    hf₁.left hf
  exact ⟨⟨_, rfl⟩, .mk hy (hs ▸ hcalls) t hleaves⟩

theorem Shadows.place (h : Shadows record r limits (sweepsIn record) xs p)
    (hrecord : rules.Obeyed record) {session : Session} {opening : Except Fault Unit}
    (hA : Ruled rules (xs ++ .opened session opening :: ys)) {config : JobConfig}
    (hJ : Foretold rules record r limits session config) {answer : Except Fault Attempt}
    (hplace : Places config p (.opened session opening :: ys) answer q) :
    ∃ a, answer = .ok a ∧
      Shadows record r limits (sweepsIn record) (xs ++ .opened session opening :: ys) q := by
  have hopening : opening = .ok () :=
    (hA.obeyed.openings session opening (List.mem_append_right _ List.mem_cons_self)).trans
      hJ.opening
  have l := h.ledger.place hplace hA.nodup
  rcases hplace.submits with ⟨_, _, heq, -, -⟩ |
      ⟨session, more, own, reply, a, heq, hsub, hlives, hcalls, rfl, rfl⟩
  · cases heq
    cases hopening
  · cases heq
    rw [h.limits_eq] at hsub
    have hnew := not_mem_openedIn_of_nodup hA.nodup
    -- All other attempts see no call.
    have hold : ∀ c ∈ p.roster, callsOn c.session (.opened session (.ok ()) :: ys) = [] :=
      fun c hc => h.ledger.callsOn_of_new hnew hlives hc
    have hown : callsOn session (xs ++ .opened session (.ok ()) :: ys) = callsOn session own := by
      rw [callsOn_append, h.ledger.callsOn_eq_nil hnew, List.nil_append, callsOn_cons,
        if_neg (by simp), hcalls]
    have hf := hA.obeyed.calls session
    rw [hown] at hf
    obtain ⟨⟨granted, rfl⟩, hshadow⟩ := hJ.submits hrecord hsub hf
    refine ⟨a, rfl, l, h.limits_eq, ?_, ?_⟩
    · intro c hc
      rcases List.mem_append.mp hc with hc | hc
      · rw [callsOn_append, hold c (List.mem_append_left _ hc), List.append_nil]
        exact h.inFlight c hc
      · obtain rfl := List.mem_singleton.mp hc
        rw [hlives.course.session_eq, fresh_session, hown]
        exact hshadow
    · intro x hx
      rw [callsOn_append, hold _ (List.mem_append_right _ (List.mem_map_of_mem hx)),
        List.append_nil]
      exact h.departed x hx

theorem Shadows.idle (h : Shadows record r limits n xs p) {e : Event} (hcall : e.callOn? = none)
    (hopen : e.opened? = none) : Shadows record r limits n (xs ++ [e]) p := by
  have hcalls : ∀ s, callsOn s (xs ++ [e]) = callsOn s xs := by
    intro s
    simp [hcall]
  refine ⟨h.ledger.idle hcall hopen, h.limits_eq, fun a ha => ?_, fun x hx => ?_⟩
  · rw [hcalls]
    exact h.inFlight a ha
  · rw [hcalls]
    exact h.departed x hx

/-- **Beside a run that has ended, a pool counts down**, beginning with the sweeps that there were
in that run. -/
theorem countdown_of_record (hrecord : rules.Obeyed record) (r : Pool) (limits : PoolLimits) :
    Countdown (Ruled rules) (Foretold rules record r limits) (sweepsIn record)
      (Shadows record r limits) where
  left := Ruled.left
  mono := fun hle h => { h with inFlight := fun a ha => (h.inFlight a ha).mono hle }
  empty := by
    intro xs p h
    refine List.eq_nil_iff_forall_not_mem.mpr fun a ha => ?_
    obtain ⟨-, -, -, hleaves⟩ := h.inFlight a ha
    cases hleaves
  idle := fun h hcall hopen => h.idle hcall hopen
  sweep := fun h hA hsweep => h.sweep hrecord hA hsweep
  place := fun h hA hJ hplace => h.place hrecord hA hJ hplace

/-! ## When both have ended -/

/-- What a pool makes of a job depends on its limits only by the submissions that it grants. -/
theorem fresh_congr {l l' : PoolLimits} (h : l'.submissions = l.submissions) (session : Session)
    (config : JobConfig) : fresh l' session config = fresh l session config := by
  unfold fresh PoolLimits.budget
  congr 2

/-- With nothing in flight, whatever was submitted is foretold for a run with as many submissions
for each job. -/
theorem Chronicle.foretells (c : Chronicle record r) (hrecord : rules.Obeyed record)
    (hnil : r.inFlight = []) (hlimits : limits.submissions = r.limits.submissions)
    {session : Session} {config : JobConfig} {answer : Except Fault (Option Int)}
    (he : .submitted session config answer ∈ record) :
    Foretold rules record r limits session config := by
  have hopened : session ∈ openedIn record := c.ledger.known _ he session rfl
  obtain ⟨a, ha, rfl⟩ := mem_sessionsOf.mp (c.ledger.roster.mem_iff.mpr hopened)
  have hleft := ha
  rw [roster, hnil, List.nil_append] at hleft
  obtain ⟨x, hx, rfl⟩ := List.mem_map.mp hleft
  obtain ⟨config', hcourse⟩ := c.ledger.course _ ha
  have hconfig : config = x.attempt.config := by
    rw [(Attempt.Course.frame hcourse).2.1]
    exact Attempt.Course.config_of_submitted hcourse (mem_callsOn.mpr ⟨he, rfl⟩)
  subst hconfig
  refine ⟨?_, x, hx, ?_⟩
  · obtain ⟨e, hmem, hopen⟩ := List.mem_filterMap.mp hopened
    cases e with
    | opened s opening =>
        cases opening with
        | error => cases hopen
        | ok =>
            cases hopen
            exact (hrecord.openings _ _ hmem).symm
    | _ => cases hopen
  · rw [fresh_congr hlimits]
    exact c.departed x hx

/-- The sessions of those that have left, each with the reason. -/
def reasons (p : Pool) : List (Session × Departure) :=
  p.departed.map fun x => (x.attempt.session, x.why)

theorem reasons_map_fst (p : Pool) :
    p.reasons.map Prod.fst = sessionsOf (p.departed.map (·.attempt)) := by
  rw [reasons, sessionsOf, List.map_map, List.map_map]
  rfl

/-- With nothing in flight, all sessions that were opened have a reason. -/
theorem Ledger.reasons_perm {events : List Event} (l : Ledger events p) (hnil : p.inFlight = []) :
    (p.reasons.map Prod.fst).Perm (openedIn events) := by
  have hroster := l.roster
  rwa [Pool.roster, hnil, List.nil_append, ← reasons_map_fst] at hroster

/-- **Everyone leaves for the reason that is foretold**, once nothing is in flight. -/
theorem Shadows.reasons_perm {events : List Event} (h : Shadows record r limits n events p)
    (l : Ledger record r) (hn : (openedIn events).Nodup)
    (hopened : openedIn events = openedIn record) (hnil : p.inFlight = [])
    (hnil' : r.inFlight = []) : p.reasons.Perm r.reasons := by
  have hsessions := h.ledger.reasons_perm hnil
  have hsessions' := l.reasons_perm hnil'
  have hnodup : p.reasons.Nodup := .of_map Prod.fst (hsessions.nodup_iff.mpr hn)
  have hsub : p.reasons ⊆ r.reasons := by
    intro pair hpair
    obtain ⟨x, hx, rfl⟩ := List.mem_map.mp hpair
    obtain ⟨y, hy, hwhy, hs, -⟩ := h.departed x hx
    exact List.mem_map.mpr ⟨y, hy, by rw [hwhy, hs]⟩
  refine (List.subperm_of_subset hnodup hsub).perm_of_length_le ?_
  rw [← hopened] at hsessions'
  have hlength := hsessions'.length_eq.trans hsessions.length_eq.symm
  rw [List.length_map, List.length_map] at hlength
  exact hlength.le

/-- **Every session sees the calls that are foretold**, once nothing is in flight. -/
theorem Shadows.history_eq {events : List Event} (h : Shadows record r limits n events p)
    (l : Ledger record r) (hopened : openedIn events = openedIn record) (hnil : p.inFlight = [])
    (s : Session) : history (callsOn s events) = history (callsOn s record) := by
  by_cases hs : s ∈ openedIn events
  · obtain ⟨⟨_, why⟩, hpair, rfl⟩ :=
      List.mem_map.mp ((h.ledger.reasons_perm hnil).mem_iff.mpr hs)
    obtain ⟨x, hx, heq⟩ := List.mem_map.mp hpair
    cases heq
    obtain ⟨_, -, -, -, hhistory⟩ := h.departed x hx
    exact hhistory
  · rw [h.ledger.callsOn_eq_nil hs, l.callsOn_eq_nil (hopened ▸ hs)]

theorem countP_reasons (p : Pool) (why : Departure) :
    p.departed.countP (·.why == why) = p.reasons.countP (·.2 == why) := by
  rw [reasons, List.countP_map]
  rfl

/-- Then the counters are the same as well. -/
theorem counters_eq_of_reasons {events : List Event} (l : Ledger events p) (l' : Ledger record r)
    (h : p.reasons.Perm r.reasons) :
    p.completed = r.completed ∧ p.abandoned = r.abandoned := by
  rw [l.completed, l.abandoned, l'.completed, l'.abandoned]
  simp only [countP_reasons]
  exact ⟨h.countP_eq _, h.countP_eq _⟩

end Shadows

end Pool

end LoadDispatch
