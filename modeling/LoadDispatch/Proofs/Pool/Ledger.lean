import LoadDispatch.Proofs.Pool.Moves
import LoadDispatch.Proofs.Pool.Turns

/-!
# The ledger of a pool

What the events so far say of the pool they have led to.  `Ledger events p` is the invariant behind
everything that is claimed of a pool over a whole run.  Its core are two clauses:

* **the roster**: the attempts in flight and those that have left are, one for one, the sessions
  that were opened;
* **the courses**: each of them is what a fresh attempt becomes along the calls on its session.

All else of a single session is a property of a course, and all else of the pool a property of the
roster.  The ledger also says what an attempt that has left shows (`Departed.Shows`): who was
counted as completed was seen finished before its session was closed, and who was counted as
abandoned had used its budget up.

The ledger is kept by a turn of any kind (`Ledger.turn`) and by an admission (`Ledger.place`), so it
is kept by all operations, whatever they end with.  Both need that the sessions opened are different
from each other; this is known of every record, and is passed on as a hypothesis.
-/

namespace LoadDispatch

/-- What the calls on the session of an attempt show once it has left.  It is released; if it was
counted as completed, the last call but the closing was a query answered by a finished status; if it
was counted as abandoned, its budget is used up. -/
def Departed.Shows (x : Departed) (calls : List Event) : Prop :=
  x.attempt.released = true ∧
    match x.why with
    | .completed => ∃ before job status answer, JobStatus.isFinished status = true ∧
        calls = before ++ [.polled x.attempt.session job (.ok (.known status)),
          .closed x.attempt.session answer]
    | .abandoned => x.attempt.budget.used = x.attempt.budget.limit
    | .closed => True

theorem Departed.Shows.before {x : Departed} {calls : List Event} (h : x.Shows calls)
    (earlier : List Event) : x.Shows (earlier ++ calls) := by
  obtain ⟨why, a⟩ := x
  refine ⟨h.1, ?_⟩
  obtain ⟨-, h⟩ := h
  match why with
  | .completed =>
      obtain ⟨before, job, status, answer, hfin, heq⟩ := h
      exact ⟨earlier ++ before, job, status, answer, hfin, by rw [heq, List.append_assoc]⟩
  | .abandoned => exact h
  | .closed => trivial

/-- A part of any kind: calls of the attempt, and a reason for leaving if it leaves. -/
def Attempt.Part (a : Attempt) (calls : List Event) (b : Attempt) (why : Option Departure) : Prop :=
  a.Course calls b ∧ ∀ r, why = some r → Departed.Shows ⟨r, b⟩ calls

theorem Attempt.Passes.part {a b : Attempt} {calls : List Event} {why : Option Departure}
    (h : a.Passes calls b why) : a.Part calls b why := by
  refine ⟨h.course, ?_⟩
  rintro r rfl
  refine ⟨h.released.1, ?_⟩
  match r with
  | .completed =>
      obtain ⟨job, status, answer, hfin, hcalls⟩ := h.of_completed
      exact ⟨[], job, status, answer, hfin, by rw [h.course.session_eq, hcalls, List.nil_append]⟩
  | .abandoned => exact h.of_abandoned
  | .closed => trivial

theorem Attempt.LetGo.part {a b : Attempt} {calls : List Event} {why : Option Departure}
    (h : a.LetGo calls b why) : a.Part calls b why := by
  obtain ⟨hrel⟩ := h
  refine ⟨hrel.lives.course, ?_⟩
  rintro r ⟨⟩
  exact ⟨hrel.released, trivial⟩

theorem Attempt.Called.part {c : Attempt.Call} {a b : Attempt} {calls : List Event}
    {why : Option Departure} (h : Attempt.Called c a calls b why) : a.Part calls b why := by
  obtain ⟨rfl, hcourse, -⟩ := h
  exact ⟨hcourse, by simp⟩

namespace Pool

/-- All attempts that a pool was ever given: those in flight and those that have left. -/
def roster (p : Pool) : List Attempt :=
  p.inFlight ++ p.departed.map (·.attempt)

/-- Whoever a pool has after a turn has done its part, or had left before. -/
theorem Turn.mem_roster {part : Attempt → List Event → Attempt → Option Departure → Prop}
    {p q : Pool} {events : List Event} {gone : List Departed} (t : p.Turn part events gone q)
    {b : Attempt} (hb : b ∈ q.roster) :
    b ∈ p.departed.map (·.attempt) ∨
      ∃ a ∈ p.inFlight, ∃ why, part a (callsOn b.session events) b why := by
  rw [roster, t.departed, List.map_append, List.mem_append, List.mem_append] at hb
  rcases hb with hb | hb | hb
  · obtain ⟨a, ha, h⟩ := t.stays b hb
    exact .inr ⟨a, ha, _, h⟩
  · exact .inl hb
  · obtain ⟨x, hx, rfl⟩ := List.mem_map.mp hb
    obtain ⟨a, ha, h⟩ := t.leaves x hx
    exact .inr ⟨a, ha, _, h⟩

/-- What the events so far say of the pool they have led to. -/
structure Ledger (events : List Event) (p : Pool) : Prop where
  /-- The pool has the sessions that were opened. -/
  roster : (sessionsOf p.roster).Perm (openedIn events)
  /-- Those in flight are in the order of opening. -/
  order : (sessionsOf p.inFlight).Sublist (openedIn events)
  /-- Only sessions that were opened are called. -/
  known : ∀ e ∈ events, ∀ s, e.callOn? = some s → s ∈ openedIn events
  /-- Every attempt was led to where it is by the calls on its session. -/
  course : ∀ a ∈ p.roster,
    ∃ config, (fresh p.limits a.session config).Course (callsOn a.session events) a
  /-- Every attempt was submitted. -/
  begun : ∀ a ∈ p.roster, 0 < a.budget.used
  /-- Who has left, left for a reason. -/
  left : ∀ x ∈ p.departed, x.Shows (callsOn x.attempt.session events)
  /-- The finished ones are counted. -/
  completed : p.completed = p.departed.countP (·.why == .completed)
  /-- The abandoned ones are counted. -/
  abandoned : p.abandoned = p.departed.countP (·.why == .abandoned)

namespace Ledger

variable {p q : Pool} {before events : List Event}

/-- Before anything has happened. -/
theorem initial (limits : PoolLimits) : Ledger [] { limits } := by
  refine ⟨.refl _, .refl _, ?_, ?_, ?_, ?_, rfl, rfl⟩ <;> simp [Pool.roster]

/-- A session that was not opened was not called. -/
theorem callsOn_eq_nil (l : Ledger events p) {s : Session} (hs : s ∉ openedIn events) :
    callsOn s events = [] := by
  refine List.filter_eq_nil_iff.mpr fun e he hcall => ?_
  exact hs (l.known e he s (by simpa using hcall))

theorem mem_opened (l : Ledger events p) {a : Attempt} (ha : a ∈ p.roster) :
    a.session ∈ openedIn events :=
  l.roster.subset (session_mem_sessionsOf ha)

theorem nodup_roster (l : Ledger events p) (hn : (openedIn events).Nodup) :
    (sessionsOf p.roster).Nodup :=
  l.roster.nodup_iff.mpr hn

theorem nodup_inFlight (l : Ledger events p) (hn : (openedIn events).Nodup) :
    (sessionsOf p.inFlight).Nodup :=
  hn.sublist l.order

/-- An attempt that has left is not in flight. -/
theorem not_mem_inFlight (l : Ledger events p) (hn : (openedIn events).Nodup) {x : Departed}
    (hx : x ∈ p.departed) : x.attempt.session ∉ sessionsOf p.inFlight := by
  have h := l.nodup_roster hn
  rw [Pool.roster, sessionsOf_append, List.nodup_append] at h
  intro hmem
  exact h.2.2 _ hmem _ (session_mem_sessionsOf (List.mem_map_of_mem hx)) rfl

/-- What calls only sessions in flight leaves those that have left alone. -/
theorem callsOn_departed (l : Ledger before p) (hn : (openedIn before).Nodup)
    (hamong : ∀ e ∈ events, e.Among (sessionsOf p.inFlight)) {x : Departed}
    (hx : x ∈ p.departed) : callsOn x.attempt.session events = [] :=
  LoadDispatch.callsOn_eq_nil hamong (l.not_mem_inFlight hn hx)

/-- What happens on a new session leaves all attempts so far alone. -/
theorem callsOn_of_new (l : Ledger before p) {a b c : Attempt}
    (hnew : a.session ∉ openedIn before) (hlives : a.Lives events b) (hc : c ∈ p.roster) :
    callsOn c.session (.opened a.session (.ok ()) :: events) = [] := by
  have hne : c.session ∉ [a.session] := by
    rw [List.mem_singleton]
    intro heq
    exact hnew (heq ▸ l.mem_opened hc)
  rw [callsOn_cons, LoadDispatch.callsOn_eq_nil hlives.own hne]
  exact if_neg (by simp)

/-- Who does its part does it on top of its course so far. -/
theorem part (l : Ledger before p) {a b : Attempt} {why : Option Departure} (ha : a ∈ p.inFlight)
    (h : a.Part (callsOn b.session events) b why) :
    (∃ config, (fresh p.limits b.session config).Course
      (callsOn b.session (before ++ events)) b) ∧ 0 < b.budget.used := by
  obtain ⟨hcourse, -⟩ := h
  have hroster : a ∈ p.roster := List.mem_append_left _ ha
  obtain ⟨config, hc⟩ := l.course a hroster
  refine ⟨⟨config, ?_⟩, ?_⟩
  · rw [callsOn_append, hcourse.session_eq]
    exact hc.trans (hcourse.session_eq ▸ hcourse)
  · rw [Attempt.Course.count_submissions hcourse]
    exact Nat.add_pos_left (l.begun a hroster) _

/-- **A turn keeps the ledger**, whatever its parts are. -/
theorem turn (l : Ledger before p) (hn : (openedIn before).Nodup) {gone : List Departed}
    (t : p.Turn Attempt.Part events gone q) : Ledger (before ++ events) q := by
  have hopened : openedIn (before ++ events) = openedIn before := by
    rw [openedIn_append, openedIn_eq_nil t.among, List.append_nil]
  -- Attempts that had left before see no call.
  have hold : ∀ x ∈ p.departed,
      callsOn x.attempt.session (before ++ events) = callsOn x.attempt.session before := by
    intro x hx
    rw [callsOn_append, l.callsOn_departed hn t.among hx, List.append_nil]
  refine ⟨?_, ?_, ?_, ?_, ?_, ?_, ?_, ?_⟩
  · rw [hopened]
    refine List.Perm.trans ?_ l.roster
    rw [Pool.roster, Pool.roster, t.departed, List.map_append, sessionsOf_append,
      sessionsOf_append, sessionsOf_append]
    refine ((List.perm_append_comm.append_left _).trans ?_)
    rw [← List.append_assoc, ← sessionsOf_append]
    exact t.sessions.append_right _
  · rw [hopened]
    exact t.order.trans l.order
  · intro e he s hs
    rw [hopened]
    rcases List.mem_append.mp he with he | he
    · exact l.known e he s hs
    · exact l.order.subset ((t.among e he).mem hs)
  · intro b hb
    rw [t.limits]
    rcases t.mem_roster hb with hb | ⟨a, ha, why, h⟩
    · obtain ⟨x, hx, rfl⟩ := List.mem_map.mp hb
      rw [hold x hx]
      exact l.course _ (List.mem_append_right _ hb)
    · exact (l.part ha h).1
  · intro b hb
    rcases t.mem_roster hb with hb | ⟨a, ha, why, h⟩
    · exact l.begun b (List.mem_append_right _ hb)
    · exact (l.part ha h).2
  · intro x hx
    rw [t.departed, List.mem_append] at hx
    rcases hx with hx | hx
    · rw [hold x hx]
      exact l.left x hx
    · obtain ⟨a, -, -, h⟩ := t.leaves x hx
      rw [callsOn_append]
      exact (h x.why rfl).before _
  · rw [t.completed, t.departed, List.countP_append, l.completed]
  · rw [t.abandoned, t.departed, List.countP_append, l.abandoned]

/-- Something that has nothing to do with sessions keeps the ledger. -/
theorem idle (l : Ledger before p) {e : Event} (hcall : e.callOn? = none)
    (hopen : e.opened? = none) : Ledger (before ++ [e]) p := by
  have hopened : openedIn (before ++ [e]) = openedIn before := by
    simp [openedIn, hopen]
  have hcalls : ∀ s, callsOn s (before ++ [e]) = callsOn s before := by
    intro s
    simp [hcall]
  refine ⟨hopened ▸ l.roster, hopened ▸ l.order, ?_, ?_, l.begun, ?_, l.completed, l.abandoned⟩
  · intro e' he' s hs
    rw [hopened]
    rcases List.mem_append.mp he' with he' | he'
    · exact l.known e' he' s hs
    · rw [List.mem_singleton.mp he', hcall] at hs
      cases hs
  · intro a ha
    rw [hcalls]
    exact l.course a ha
  · intro x hx
    rw [hcalls]
    exact l.left x hx

/-- A session is opened, and an attempt lives on it from then on. -/
theorem admitted (l : Ledger before p) {session : Session} {config : JobConfig}
    {more : List Event} {a : Attempt} (hnew : session ∉ openedIn before)
    (hlives : (fresh p.limits session config).Lives more a) (hused : 0 < a.budget.used) :
    Ledger (before ++ .opened session (.ok ()) :: more)
      { p with inFlight := p.inFlight ++ [a] } := by
  have hs : a.session = session := hlives.course.session_eq
  have hmore : openedIn more = [] := openedIn_eq_nil hlives.own
  have hopened : openedIn (before ++ .opened session (.ok ()) :: more) =
      openedIn before ++ [session] := by
    rw [openedIn_append]
    congr 1
    show session :: openedIn more = _
    rw [hmore]
  -- All other attempts see no call.
  have hold : ∀ b ∈ p.roster,
      callsOn b.session (before ++ .opened session (.ok ()) :: more) =
        callsOn b.session before := by
    intro b hb
    have hnone : callsOn b.session (.opened session (.ok ()) :: more) = [] :=
      l.callsOn_of_new hnew hlives hb
    rw [callsOn_append, hnone, List.append_nil]
  have hroster : ∀ b ∈ ({ p with inFlight := p.inFlight ++ [a] } : Pool).roster,
      b = a ∨ b ∈ p.roster := by
    intro b hb
    rw [Pool.roster, List.mem_append, List.mem_append, List.mem_singleton] at hb
    rcases hb with (hb | hb) | hb
    · exact .inr (List.mem_append_left _ hb)
    · exact .inl hb
    · exact .inr (List.mem_append_right _ hb)
  refine ⟨?_, ?_, ?_, ?_, ?_, ?_, l.completed, l.abandoned⟩
  · rw [hopened, Pool.roster, sessionsOf_append, sessionsOf_append, List.append_assoc]
    refine List.Perm.trans ?_ (l.roster.append_right _)
    rw [Pool.roster, sessionsOf_append, List.append_assoc, sessionsOf_cons, hs]
    exact List.perm_append_comm.append_left _
  · rw [hopened, sessionsOf_append, sessionsOf_cons, hs]
    exact l.order.append_right _
  · intro e he s hcall
    rw [hopened, List.mem_append, List.mem_singleton]
    rw [List.mem_append, List.mem_cons] at he
    rcases he with he | rfl | he
    · exact .inl (l.known e he s hcall)
    · cases hcall
    · exact .inr (List.mem_singleton.mp ((hlives.own e he).mem hcall))
  · intro b hb
    rcases hroster b hb with rfl | hb
    · refine ⟨config, ?_⟩
      rw [hs, callsOn_append, l.callsOn_eq_nil hnew, List.nil_append, callsOn_cons]
      simpa using hlives.course
    · rw [hold b hb]
      exact l.course b hb
  · intro b hb
    rcases hroster b hb with rfl | hb
    · exact hused
    · exact l.begun b hb
  · intro x hx
    rw [hold _ (List.mem_append_right _ (List.mem_map_of_mem hx))]
    exact l.left x hx

/-- **An admission keeps the ledger**, with a new session. -/
theorem place (l : Ledger before p) {config : JobConfig} {answer : Except Fault Attempt}
    (h : Places config p events answer q) (hn : (openedIn (before ++ events)).Nodup) :
    Ledger (before ++ events) q := by
  rcases h.opens with ⟨_, _, rfl, -, rfl⟩ | ⟨session, _, _, _, a, rfl, -, hlives, hused, -, rfl⟩
  · exact l.idle rfl rfl
  · exact l.admitted (not_mem_openedIn_of_nodup hn) hlives (hused ▸ Nat.one_pos)

/-! ## Moves and operations -/

theorem move (l : Ledger before p) (h : Move p events q)
    (hn : (openedIn (before ++ events)).Nodup) : Ledger (before ++ events) q := by
  cases h with
  | sweep hsweep =>
      have hn' := nodup_openedIn_left hn
      obtain ⟨gone, t⟩ := hsweep.turn (l.nodup_inFlight hn')
      exact l.turn hn' (t.mono fun _ _ _ _ => Attempt.Passes.part)
  | place hplace => exact l.place hplace hn
  | idle hcall hopen => exact l.idle hcall hopen

/-- What every move keeps, moves keep: at each of them the ledger is right. -/
theorem moves_keep (l : Ledger before p) (h : Moves p events q)
    (hn : (openedIn (before ++ events)).Nodup) {I : Pool → Prop} (hp : I p)
    (hmove : ∀ xs p ys q, Ledger xs p → (openedIn xs).Nodup → Move p ys q → I p → I q) :
    Ledger (before ++ events) q ∧ I q := by
  -- The sessions of a part of a run are among those of the whole.
  refine Steps.keeps (I := fun xs p => (openedIn xs).Nodup → Ledger xs p ∧ I p) ?_
    (fun _ => ⟨l, hp⟩) h hn
  intro xs p ys q ih h hn
  have hn' := nodup_openedIn_left hn
  obtain ⟨l, hI⟩ := ih hn'
  exact ⟨l.move h hn, hmove xs p ys q l hn' h hI⟩

theorem moves (l : Ledger before p) (h : Moves p events q)
    (hn : (openedIn (before ++ events)).Nodup) : Ledger (before ++ events) q :=
  (l.moves_keep h hn (I := fun _ => True) trivial fun _ _ _ _ _ _ _ _ => trivial).1

theorem closes (l : Ledger before p) {answer : Except Fault Unit}
    (h : Closes p events answer q) (hn : (openedIn before).Nodup) :
    Ledger (before ++ events) q := by
  obtain ⟨gone, t, -⟩ := h.turn (l.nodup_inFlight hn)
  exact l.turn hn (t.mono fun _ _ _ _ => Attempt.LetGo.part)

/-- A call is a turn, since those that have left are released. -/
theorem turn_of_calls (l : Ledger before p) {session : Session} {c : Attempt.Call}
    (h : Calls session c p events q) (hn : (openedIn before).Nodup) :
    p.Turn (Attempt.Called c) events [] q :=
  h.turn (l.nodup_roster hn) fun x hx => (l.left x hx).1

theorem calls (l : Ledger before p) {session : Session} {c : Attempt.Call}
    (h : Calls session c p events q) (hn : (openedIn before).Nodup) :
    Ledger (before ++ events) q :=
  l.turn hn ((l.turn_of_calls h hn).mono fun _ _ _ _ => Attempt.Called.part)

/-- **Every operation keeps the ledger**, however it ends. -/
theorem performs (l : Ledger before p) {passes : Nat} {o : Operation}
    (h : Performs passes p o events q) (hn : (openedIn (before ++ events)).Nodup) :
    Ledger (before ++ events) q := by
  rcases h.kinds with ⟨-, -, hmoves⟩ | ⟨-, _, hclose⟩ | ⟨-, _, _, -, hcall⟩
  · exact l.moves hmoves hn
  · exact l.closes hclose (nodup_openedIn_left hn)
  · exact l.calls hcall (nodup_openedIn_left hn)

theorem performsAll (l : Ledger before p) {passes : Nat} {ops : List Operation}
    (h : PerformsAll passes p ops events q) (hn : (openedIn (before ++ events)).Nodup) :
    Ledger (before ++ events) q := by
  induction h generalizing before with
  | nil => simpa using l
  | cons hfirst _ ih =>
      rw [← List.append_assoc] at hn ⊢
      exact ih (l.performs hfirst (nodup_openedIn_left hn)) hn

end Ledger

/-! ## Runs -/

section Runs

variable {ω : Type}

/-- A run of operations on a new pool, begun at some desk: the pool in the end, and the events. -/
def run (w : World ω) (passes : Nat) (limits : PoolLimits) (ops : List Operation) (d : Desk ω) :
    Pool × List Event :=
  let r := performAll w.environment passes { limits } ops d
  (r.1.2, r.2.eventsSince d.journal.length)

variable (w : World ω) (passes : Nat) (limits : PoolLimits) (ops : List Operation) (d : Desk ω)

/-- A run does what its operations do, and no session is opened twice in it. -/
theorem run_performs : PerformsAll passes { limits } ops (run w passes limits ops d).2
      (run w passes limits ops d).1 ∧ (openedIn (run w passes limits ops d).2).Nodup := by
  obtain ⟨hrecords, h⟩ := (performAll_ensures passes { limits } ops).of_run (w := w) (d := d) rfl
  exact ⟨h, hrecords.nodup_openedIn⟩

/-- **After any operations the ledger is right.** -/
theorem run_ledger : Ledger (run w passes limits ops d).2 (run w passes limits ops d).1 := by
  obtain ⟨h, hn⟩ := run_performs w passes limits ops d
  exact (Ledger.initial limits).performsAll h hn

end Runs

end Pool

end LoadDispatch
