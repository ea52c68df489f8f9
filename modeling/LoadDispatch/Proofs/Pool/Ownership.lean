import LoadDispatch.Proofs.Pool.Ledger

/-!
# Who closes a session

A session with the job service has to be closed, and once is enough.  While an attempt is in flight
its pool is responsible for that; when it leaves, its session was closed.  The ledger turns this
into facts about any run:

* the calls on a session are submissions and status queries, and at most one closing behind them;
* a session that is open belongs to an attempt in flight, so nobody loses it;
* when a pool is closed, or its scope is left, every session it ever opened is closed;
* the attempts in flight are exactly those with an open session, in the order of opening, as long as
  the owner releases none behind the back of the pool.

All of them hold after every operation, whatever it ended with.
-/

namespace LoadDispatch

/-- How often a session was closed, or tried to be. -/
def closings (s : Session) (events : List Event) : Nat :=
  (callsOn s events).countP Event.isClosing

/-- Submissions and status queries, and nothing but at most one closing behind them. -/
def TalkThenClose (s : Session) (calls : List Event) : Prop :=
  ∃ talk last, calls = talk ++ last ∧ (∀ e ∈ talk, e.isClosing = false) ∧
    (last = [] ∨ ∃ answer, last = [.closed s answer])

namespace Pool

/-! ## One session -/

section Ledger

variable {p : Pool} {events : List Event}

theorem Ledger.exists_of_opened (l : Ledger events p) {s : Session} (hs : s ∈ openedIn events) :
    ∃ a ∈ p.roster, a.session = s :=
  mem_sessionsOf.mp (l.roster.symm.subset hs)

/-- The calls of an attempt end with a closing exactly if it is released. -/
theorem Ledger.talk_then_close (l : Ledger events p) {a : Attempt} (ha : a ∈ p.roster) :
    ∃ talk last, callsOn a.session events = talk ++ last ∧ (∀ e ∈ talk, e.isClosing = false) ∧
      ((a.released = false ∧ last = []) ∨
        (a.released = true ∧ ∃ answer, last = [.closed a.session answer])) := by
  obtain ⟨config, hcourse⟩ := l.course a ha
  have hfresh : (fresh p.limits a.session config).released = false := rfl
  have h := Attempt.Course.talk_then_close hfresh hcourse
  exact h

theorem Ledger.closings_eq (l : Ledger events p) {a : Attempt} (ha : a ∈ p.roster) :
    closings a.session events = if a.released then 1 else 0 := by
  obtain ⟨config, hcourse⟩ := l.course a ha
  have hfresh : (fresh p.limits a.session config).released = false := rfl
  exact Attempt.Course.count_closings hfresh hcourse

/-- **No session is lost**: one that is open belongs to an attempt in flight. -/
theorem Ledger.inFlight_of_open (l : Ledger events p) {s : Session} (hs : s ∈ openedIn events)
    (hopen : closings s events = 0) : s ∈ sessionsOf p.inFlight := by
  obtain ⟨a, ha, rfl⟩ := l.exists_of_opened hs
  rcases List.mem_append.mp ha with hin | hleft
  · exact session_mem_sessionsOf hin
  · -- Who has left is released, and so its session was closed.
    obtain ⟨x, hx, rfl⟩ := List.mem_map.mp hleft
    rw [l.closings_eq ha, (l.left x hx).1] at hopen
    cases hopen

/-- A sublist of a list without repetition is told by its members. -/
theorem eq_filter_of_sublist {xs ys : List Session} (h : xs.Sublist ys) (hn : ys.Nodup) :
    xs = ys.filter (· ∈ xs) := by
  induction h with
  | slnil => rfl
  | @cons xs ys y h ih =>
      rw [List.nodup_cons] at hn
      have hy : y ∉ xs := fun hmem => hn.1 (h.subset hmem)
      rw [List.filter_cons_of_neg (by simpa using hy)]
      exact ih hn.2
  | @cons_cons xs ys y _ ih =>
      rw [List.nodup_cons] at hn
      rw [List.filter_cons_of_pos (by simp)]
      congr 1
      -- The first one does not come again, so it makes no difference to the others.
      refine (ih hn.2).trans (List.filter_congr fun z hz => ?_)
      have hne : z ≠ y := fun heq => hn.1 (heq ▸ hz)
      simp [hne]

end Ledger

/-! ## Nothing is released in flight -/

/-- No attempt in flight is released. -/
def Held (p : Pool) : Prop :=
  ∀ a ∈ p.inFlight, a.released = false

section Held

variable {p q : Pool} {events : List Event}

/-- Turns keep attempts held if their parts release nobody who stays. -/
theorem Turn.held {part : Attempt → List Event → Attempt → Option Departure → Prop}
    {gone : List Departed} (t : p.Turn part events gone q)
    (hpart : ∀ a calls b, part a calls b none → b.released = a.released) (hp : p.Held) :
    q.Held := by
  intro b hb
  obtain ⟨a, ha, h⟩ := t.stays b hb
  rw [hpart a _ b h]
  exact hp a ha

theorem Places.held {config : JobConfig} {answer : Except Fault Attempt}
    (h : Places config p events answer q) (hp : p.Held) : q.Held := by
  rcases h.opens with ⟨_, _, -, -, rfl⟩ | ⟨_, _, _, _, a, -, -, -, -, hreleased, rfl⟩
  · exact hp
  · intro b hb
    rcases List.mem_append.mp hb with hb | hb
    · exact hp b hb
    · rw [List.mem_singleton.mp hb]
      exact hreleased

theorem Move.held (h : Move p events q) (hn : (sessionsOf p.inFlight).Nodup) (hp : p.Held) :
    q.Held := by
  cases h with
  | sweep hsweep =>
      obtain ⟨_, t⟩ := hsweep.turn hn
      exact t.held (fun _ _ _ => Attempt.Passes.released_eq) hp
  | place hplace => exact hplace.held hp
  | idle => exact hp

theorem Moves.held {before : List Event} (h : Moves p events q) (l : Ledger before p)
    (hn : (openedIn (before ++ events)).Nodup) (hp : p.Held) : q.Held := by
  refine (l.moves_keep h hn hp ?_).2
  intro xs p ys q l hn hmove hp
  exact hmove.held (l.nodup_inFlight hn) hp

theorem Closes.inFlight_eq {answer : Except Fault Unit} (h : p.Closes events answer q) :
    q.inFlight = [] := by
  cases h
  rfl

theorem Closes.held {answer : Except Fault Unit} (h : p.Closes events answer q) : q.Held := by
  intro a ha
  rw [h.inFlight_eq] at ha
  cases ha

/-- An operation keeps attempts held unless it is a release. -/
theorem Performs.held {before : List Event} {passes : Nat} {o : Operation}
    (h : Performs passes p o events q) (l : Ledger before p)
    (hn : (openedIn (before ++ events)).Nodup) (ho : o.isRelease = false) (hp : p.Held) :
    q.Held := by
  rcases h.kinds with ⟨-, -, hmoves⟩ | ⟨-, _, hclose⟩ | ⟨-, _, c, hc, hcall⟩
  · exact hmoves.held l hn hp
  · exact hclose.held
  · have t := l.turn_of_calls hcall (nodup_openedIn_left hn)
    exact t.held (fun _ _ _ hpart => hpart.released_eq (hc ho)) hp

theorem PerformsAll.held {before : List Event} {passes : Nat} {ops : List Operation}
    (h : PerformsAll passes p ops events q) (l : Ledger before p)
    (hn : (openedIn (before ++ events)).Nodup) (hops : ∀ o ∈ ops, o.isRelease = false)
    (hp : p.Held) : q.Held := by
  induction h generalizing before with
  | nil => exact hp
  | cons hfirst _ ih =>
      rw [← List.append_assoc] at hn
      rw [List.forall_mem_cons] at hops
      have hn' := nodup_openedIn_left hn
      exact ih (l.performs hfirst hn') hn hops.2 (hfirst.held l hn' hops.1 hp)

/-- With attempts held, those in flight are exactly those with an open session. -/
theorem Ledger.inFlight_eq (l : Ledger events p) (hn : (openedIn events).Nodup) (hp : p.Held) :
    sessionsOf p.inFlight = (openedIn events).filter fun s => closings s events = 0 := by
  rw [eq_filter_of_sublist l.order hn]
  refine List.filter_congr fun s hs => ?_
  rw [decide_eq_decide]
  constructor
  · intro hmem
    obtain ⟨a, ha, rfl⟩ := mem_sessionsOf.mp hmem
    rw [l.closings_eq (List.mem_append_left _ ha), hp a ha]
    rfl
  · exact l.inFlight_of_open hs

end Held

/-! ## The end of a pool -/

theorem PerformsAll.inFlight_eq_nil {p q : Pool} {events : List Event} {passes : Nat}
    {ops : List Operation} (h : PerformsAll passes p ops events q) {o : Operation}
    (hlast : ops.getLast? = some o) (ho : o.isEnd = true) : q.inFlight = [] := by
  induction h with
  | nil => cases hlast
  | @cons _ _ _ o' rest _ _ hfirst hrest ih =>
      cases hrest with
      | nil =>
          rw [List.getLast?_singleton] at hlast
          cases hlast
          rcases hfirst.kinds with ⟨hno, -⟩ | ⟨-, _, hclose⟩ | ⟨hno, -⟩
          · rw [ho] at hno
            cases hno
          · exact hclose.inFlight_eq
          · rw [ho] at hno
            cases hno
      | cons hsecond hothers =>
          rw [List.getLast?_cons_cons] at hlast
          exact ih hlast

/-- With nothing in flight, every session was closed. -/
theorem Ledger.closings_eq_one {p : Pool} {events : List Event} (l : Ledger events p)
    (hnil : p.inFlight = []) {s : Session} (hs : s ∈ openedIn events) :
    closings s events = 1 := by
  obtain ⟨a, ha, rfl⟩ := l.exists_of_opened hs
  have hmem := ha
  rw [Pool.roster, hnil, List.nil_append] at hmem
  obtain ⟨x, hx, rfl⟩ := List.mem_map.mp hmem
  rw [l.closings_eq ha, (l.left x hx).1]
  rfl

/-- **Every session has one owner and is closed once.**  After any operations on a new pool, in
any world and whatever the operations ended with:

* each session opened saw submissions and status queries, and at most one closing behind them;
* each session not closed belongs to an attempt in flight;
* if the last operation ended the pool, each session opened was closed, and that once;
* if the owner released no attempt by itself, the attempts in flight are those whose session is not
  closed, in the order of opening. -/
theorem sessions_have_one_owner {ω : Type} (w : World ω) (passes : Nat) (limits : PoolLimits)
    (ops : List Operation) (d : Desk ω) :
    let p := (run w passes limits ops d).1
    let events := (run w passes limits ops d).2
    (∀ s ∈ openedIn events, TalkThenClose s (callsOn s events)) ∧
    (∀ s ∈ openedIn events, closings s events = 0 → ∃ a ∈ p.inFlight, a.session = s) ∧
    (∀ o, ops.getLast? = some o → o.isEnd = true → ∀ s ∈ openedIn events,
      closings s events = 1) ∧
    ((∀ o ∈ ops, o.isRelease = false) →
      sessionsOf p.inFlight = (openedIn events).filter fun s => closings s events = 0) := by
  intro p events
  obtain ⟨hops, hn⟩ := run_performs w passes limits ops d
  have l : Ledger events p := run_ledger w passes limits ops d
  refine ⟨?_, ?_, ?_, ?_⟩
  · intro s hs
    obtain ⟨a, ha, rfl⟩ := l.exists_of_opened hs
    obtain ⟨talk, last, hcalls, htalk, hlast⟩ := l.talk_then_close ha
    exact ⟨talk, last, hcalls, htalk, hlast.imp And.right And.right⟩
  · intro s hs hopen
    exact mem_sessionsOf.mp (l.inFlight_of_open hs hopen)
  · intro o hlast ho s hs
    exact l.closings_eq_one (hops.inFlight_eq_nil hlast ho) hs
  · intro hreleases
    have hheld : ({ limits } : Pool).Held := by
      rintro a ⟨⟩
    exact l.inFlight_eq hn (hops.held (.initial limits) hn hreleases hheld)

end Pool

end LoadDispatch
