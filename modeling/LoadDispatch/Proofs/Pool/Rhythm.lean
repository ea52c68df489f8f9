import LoadDispatch.Proofs.Pool.Refusal

/-!
# The rhythm of waiting

A wait sweeps and rests by turns.  What it is to go on is decided by the last sweep alone: if it was
not broken off and nobody has left, the run pauses and there is another one.  So a wait is a series
of passes (`Series`), each of which begins where the one before has ended, and it is told by their
answers: some number of zeros, and then an answer that ends it.

A `Pass` is a sweep that was really made, with its answer and the pool it has left.  Passes that
nobody leaves may submit jobs again, and so change attempts, but they keep the attempts themselves
(`Pass.sessionsOf_after`).  In the trace a series is a series of ticks: a pass begins, or the run
pauses (`Series.ticks`).

A drain is made of waits (`Rounds`).  Each of them begins with somebody in flight and takes somebody
out, so there are no more of them than attempts, and as many pauses fewer than passes.
-/

namespace LoadDispatch

/-! ## Ticks -/

/-- What sets the pace of a run. -/
inductive Tick where
  /-- A pass begins. -/
  | pass
  /-- The run pauses. -/
  | pause (seconds : Float)

/-- Whether the run pauses. -/
def Tick.isPause : Tick → Bool
  | .pass => false
  | .pause _ => true

/-- What an event has to do with the pace, if anything. -/
def Event.tick? : Event → Option Tick
  | .told (.pass _) => some .pass
  | .paused seconds => some (.pause seconds)
  | _ => none

/-- The passes and pauses among events, in order. -/
def ticksIn (events : List Event) : List Tick :=
  events.filterMap Event.tick?

/-- A number of passes with a pause behind each. -/
def rests (n : Nat) (seconds : Float) : List Tick :=
  (List.replicate n [.pass, .pause seconds]).flatten

section Ticks

variable {xs ys : List Event}

@[simp] theorem ticksIn_nil : ticksIn [] = [] := rfl

@[simp] theorem ticksIn_append : ticksIn (xs ++ ys) = ticksIn xs ++ ticksIn ys :=
  List.filterMap_append

@[simp] theorem ticksIn_cons {e : Event} : ticksIn (e :: xs) = e.tick?.toList ++ ticksIn xs := by
  rw [ticksIn, List.filterMap_cons]
  cases e.tick? <;> rfl

/-- What attempts do by themselves does not set the pace. -/
theorem ticksIn_eq_nil (h : ∀ e ∈ xs, e.Plain) : ticksIn xs = [] := by
  refine List.filterMap_eq_nil_iff.mpr fun e he => ?_
  have hplain := h e he
  cases e with
  | told notice =>
      cases notice with
      | pass => exact hplain.elim
      | _ => rfl
  | paused => exact hplain.elim
  | _ => rfl

theorem countP_isPause_rests (n : Nat) (seconds : Float) :
    (rests n seconds).countP Tick.isPause = n := by
  induction n with
  | zero => rfl
  | succ n ih =>
      show (.pass :: .pause seconds :: rests n seconds : List Tick).countP Tick.isPause = n + 1
      rw [List.countP_cons, List.countP_cons, ih]
      rfl

end Ticks

namespace Pool

variable {ω : Type} {w : World ω}

theorem Sweeps.ticksIn_eq {p q : Pool} {events : List Event} {answer : Except Fault Nat}
    (h : p.Sweeps events answer q) : ticksIn events = [.pass] := by
  cases h with
  | refused hask => simp [ticksIn_eq_nil hask.plain, Event.tick?]
  | settled hask hset =>
      simp [ticksIn_eq_nil hask.plain, ticksIn_eq_nil hset.plain, Event.tick?]

theorem Sweeps.limits_eq {p q : Pool} {events : List Event} {answer : Except Fault Nat}
    (h : p.Sweeps events answer q) : q.limits = p.limits := by
  cases h <;> rfl

/-! ## Passes -/

/-- A pass: a sweep that is made. -/
structure Pass (w : World ω) where
  /-- The pool that is swept. -/
  before : Pool
  /-- The desk that the pass begins at. -/
  begun : Desk ω
  /-- How many have left, or the fault that has broken the pass off. -/
  answer : Except Fault Nat
  /-- The pool that is left. -/
  after : Pool
  /-- The desk that the pass ends at. -/
  ended : Desk ω
  /-- The sweep is made. -/
  made : before.sweep w.environment begun = ((answer, after), ended)

namespace Pass

variable (x : Pass w)

/-- How long the run pauses behind the pass, if it does: only if nobody has left. -/
def pause? : Option Float :=
  match x.answer with
  | .ok 0 => some x.after.limits.pollInterval
  | _ => none

/-- The desk behind the pass and its pause. -/
def rested : Desk ω :=
  match x.pause? with
  | some seconds => (w.environment.pause seconds x.ended).2
  | none => x.ended

/-- The pass and its pause in the trace. -/
def ticks : List Tick :=
  .pass :: (x.pause?.map .pause).toList

variable {x : Pass w}

theorem sweeps (x : Pass w) :
    Records w x.begun (x.ended.eventsSince x.begun.journal.length) x.ended ∧
      x.before.Sweeps (x.ended.eventsSince x.begun.journal.length) x.answer x.after :=
  x.before.sweep_ensures.of_run x.made

theorem limits_after (x : Pass w) : x.after.limits = x.before.limits :=
  x.sweeps.2.limits_eq

theorem sublist_after (x : Pass w) :
    (sessionsOf x.after.inFlight).Sublist (sessionsOf x.before.inFlight) :=
  x.sweeps.2.among.2

theorem length_after {removed : Nat} (h : x.answer = .ok removed) :
    x.after.inFlight.length + removed = x.before.inFlight.length :=
  (h ▸ x.sweeps.2).length_add

/-- **A pass that nobody leaves keeps the attempts in flight**, in their order. -/
theorem sessionsOf_after (h : x.answer = .ok 0) :
    sessionsOf x.after.inFlight = sessionsOf x.before.inFlight := by
  refine x.sublist_after.eq_of_length ?_
  rw [length_sessionsOf, length_sessionsOf]
  exact x.length_after h

/-- The events of a pass and its pause. -/
theorem records (x : Pass w) :
    ∃ events, Records w x.begun events x.rested ∧ ticksIn events = x.ticks := by
  obtain ⟨hrecords, hsweeps⟩ := x.sweeps
  unfold rested ticks
  match x.pause? with
  | none => exact ⟨_, hrecords, hsweeps.ticksIn_eq⟩
  | some seconds =>
      obtain ⟨hrecords', hpause⟩ := (Ensures.pause (w := w) seconds).of_run (d := x.ended) rfl
      refine ⟨_, hrecords.append hrecords', ?_⟩
      rw [ticksIn_append, hsweeps.ticksIn_eq, hpause]
      rfl

end Pass

/-- A series of passes, from a pool and a desk to another pool and desk.  Each pass begins where
the one before it, with its pause, has ended. -/
inductive Series : Pool → Desk ω → List (Pass w) → Pool → Desk ω → Prop where
  /-- No pass. -/
  | nil (p : Pool) (d : Desk ω) : Series p d [] p d
  /-- A pass, and then others. -/
  | cons (x : Pass w) {xs : List (Pass w)} {q : Pool} {d : Desk ω} :
    Series x.after x.rested xs q d → Series x.before x.begun (x :: xs) q d

namespace Series

variable {p q r : Pool} {d d₁ d₂ : Desk ω} {xs ys : List (Pass w)} {n : Nat}

theorem append (h : Series p d xs q d₁) (h' : Series q d₁ ys r d₂) :
    Series p d (xs ++ ys) r d₂ := by
  induction h with
  | nil => exact h'
  | cons x _ ih => exact .cons x (ih h')

theorem of_nil (h : Series (w := w) p d [] q d₁) : q = p := by
  cases h
  rfl

theorem single (x : Pass w) : Series x.before x.begun [x] x.after x.rested :=
  .cons x (.nil _ _)

theorem limits_eq (h : Series p d xs q d₁) : q.limits = p.limits := by
  induction h with
  | nil => rfl
  | cons x _ ih => rw [ih, x.limits_after]

theorem sublist (h : Series p d xs q d₁) :
    (sessionsOf q.inFlight).Sublist (sessionsOf p.inFlight) := by
  induction h with
  | nil => exact .refl _
  | cons x _ ih => exact ih.trans x.sublist_after

/-- **What a series shows**: its passes, each with its pause. -/
theorem records (h : Series p d xs q d₁) :
    ∃ events, Records w d events d₁ ∧ ticksIn events = xs.flatMap Pass.ticks := by
  induction h with
  | nil p d => exact ⟨[], .refl w d, rfl⟩
  | cons x _ ih =>
      obtain ⟨first, hfirst, hticks⟩ := x.records
      obtain ⟨rest, hrest, hticks'⟩ := ih
      refine ⟨first ++ rest, hfirst.append hrest, ?_⟩
      rw [ticksIn_append, hticks, hticks', List.flatMap_cons]

theorem ticksIn_eq (h : Series p d xs q d₁) :
    ticksIn (d₁.eventsSince d.journal.length) = xs.flatMap Pass.ticks := by
  obtain ⟨events, hrecords, hticks⟩ := h.records
  rw [hrecords.eventsSince, hticks]

/-! ### Idle passes and one that ends them -/

variable {last : Except Fault Nat}

/-- As long as nobody leaves, every pass begins with the same attempts in flight. -/
theorem sessionsOf_before (h : Series p d xs q d₁)
    (hanswers : xs.map Pass.answer = List.replicate n (.ok 0) ++ [last]) :
    ∀ x ∈ xs, sessionsOf x.before.inFlight = sessionsOf p.inFlight := by
  induction h generalizing n with
  | nil => simp
  | @cons x rest _ _ _ ih =>
      rw [List.forall_mem_cons]
      refine ⟨rfl, ?_⟩
      cases n with
      | zero =>
          obtain ⟨-, hrest⟩ := List.cons.inj hanswers
          simp [List.map_eq_nil_iff.mp hrest]
      | succ n =>
          obtain ⟨hidle, hrest⟩ := List.cons.inj hanswers
          intro y hy
          rw [ih hrest y hy, Pass.sessionsOf_after hidle]

/-- Idle passes have a pause behind each, and the last pass has none. -/
theorem ticks_eq (h : Series p d xs q d₁)
    (hanswers : xs.map Pass.answer = List.replicate n (.ok 0) ++ [last]) (hlast : last ≠ .ok 0) :
    xs.flatMap Pass.ticks = rests n p.limits.pollInterval ++ [.pass] := by
  induction h generalizing n with
  | nil => simp at hanswers
  | @cons x rest _ _ _ ih =>
      cases n with
      | zero =>
          obtain ⟨hanswer, hrest⟩ := List.cons.inj hanswers
          have hnone : x.pause? = none := by
            unfold Pass.pause?
            split
            · exact absurd (hanswer.symm.trans ‹_›) hlast
            · rfl
          rw [List.map_eq_nil_iff.mp hrest, List.flatMap_singleton, Pass.ticks, hnone]
          rfl
      | succ n =>
          obtain ⟨hidle, hrest⟩ := List.cons.inj hanswers
          have hpause : x.pause? = some x.before.limits.pollInterval := by
            rw [Pass.pause?, hidle, x.limits_after]
            rfl
          rw [List.flatMap_cons, ih hrest, Pass.ticks, hpause, x.limits_after]
          rfl

/-- As many leave in a series as its last pass says. -/
theorem length_add (h : Series p d xs q d₁) {removed : Nat}
    (hanswers : xs.map Pass.answer = List.replicate n (.ok 0) ++ [.ok removed]) :
    q.inFlight.length + removed = p.inFlight.length := by
  induction h generalizing n with
  | nil => simp at hanswers
  | @cons x rest _ _ hseries ih =>
      cases n with
      | zero =>
          obtain ⟨hanswer, hrest⟩ := List.cons.inj hanswers
          rw [List.map_eq_nil_iff.mp hrest] at hseries
          rw [hseries.of_nil]
          exact x.length_after hanswer
      | succ n =>
          obtain ⟨hidle, hrest⟩ := List.cons.inj hanswers
          rw [ih hrest]
          exact x.length_after hidle

end Series

/-! ## Waits -/

/-- The answer of the pass that ends a wait, if one does. -/
def endingAnswer : Outcome Nat → List (Except Fault Nat)
  | .returned removed => [.ok removed]
  | .raised fault => [.error fault]
  | .unfinished => []

section Waiting

variable {p q : Pool} {d d₁ : Desk ω} {passes : Nat}

/-- **A wait is a series of idle passes, and one that ends it.** -/
theorem series_of_sweepUntilFreed {outcome : Outcome Nat}
    (h : p.sweepUntilFreed w.environment passes d = ((outcome, q), d₁)) :
    outcome ≠ .returned 0 ∧ ∃ (n : Nat) (xs : List (Pass w)), Series p d xs q d₁ ∧
      xs.map Pass.answer = List.replicate n (.ok 0) ++ endingAnswer outcome := by
  induction passes generalizing p d with
  | zero =>
      cases h
      exact ⟨nofun, 0, [], .nil _ _, rfl⟩
  | succ passes ih =>
      obtain ⟨⟨⟨fault | removed, q'⟩, d'⟩, hmade⟩ : ∃ r, p.sweep w.environment d = r := ⟨_, rfl⟩
      · cases (run_bind hmade).symm.trans h
        exact ⟨nofun, 0, _, .single ⟨p, d, _, _, _, hmade⟩, rfl⟩
      · cases removed with
        | zero =>
            obtain ⟨hne, n, xs, hseries, hanswers⟩ := ih ((run_bind hmade).symm.trans h)
            refine ⟨hne, n + 1, _, .cons ⟨p, d, _, _, _, hmade⟩ hseries, ?_⟩
            rw [List.map_cons, hanswers]
            rfl
        | succ removed =>
            cases (run_bind hmade).symm.trans h
            exact ⟨nofun, 0, _, .single ⟨p, d, _, _, _, hmade⟩, rfl⟩

/-- A wait that returns. -/
theorem series_of_waitForSlot_returned {removed : Nat}
    (h : p.waitForSlot w.environment passes d = ((.returned removed, q), d₁)) :
    1 ≤ removed ∧ ∃ (n : Nat) (xs : List (Pass w)), Series p d xs q d₁ ∧
      xs.map Pass.answer = List.replicate n (.ok 0) ++ [.ok removed] := by
  rw [waitForSlot_of_ne_nil (ne_nil_of_waitForSlot_returned h)] at h
  obtain ⟨hne, hseries⟩ := series_of_sweepUntilFreed h
  refine ⟨Nat.one_le_iff_ne_zero.mpr ?_, hseries⟩
  rintro rfl
  exact hne rfl

/-- A wait for somebody that ends with a fault. -/
theorem series_of_waitForSlot_raised {fault : Fault} (hne : p.inFlight ≠ [])
    (h : p.waitForSlot w.environment passes d = ((.raised fault, q), d₁)) :
    ∃ (n : Nat) (xs : List (Pass w)), Series p d xs q d₁ ∧
      xs.map Pass.answer = List.replicate n (.ok 0) ++ [.error fault] := by
  rw [waitForSlot_of_ne_nil hne] at h
  exact (series_of_sweepUntilFreed h).2

end Waiting

/-! ## Drains -/

/-- A wait that is made and returns. -/
structure Wait (w : World ω) (passes : Nat) where
  /-- The pool that waits. -/
  before : Pool
  /-- The desk that the wait begins at. -/
  begun : Desk ω
  /-- How many have left. -/
  removed : Nat
  /-- The pool that is left. -/
  after : Pool
  /-- The desk that the wait ends at. -/
  ended : Desk ω
  /-- The wait is made. -/
  made : before.waitForSlot w.environment passes begun = ((.returned removed, after), ended)

/-- Waits one after the other.  Nothing happens between two of them. -/
inductive Rounds {passes : Nat} : Pool → Desk ω → List (Wait w passes) → Pool → Desk ω → Prop where
  /-- No wait. -/
  | nil (p : Pool) (d : Desk ω) : Rounds p d [] p d
  /-- A wait, and then others. -/
  | cons (y : Wait w passes) {ys : List (Wait w passes)} {q : Pool} {d : Desk ω} :
    Rounds y.after y.ended ys q d → Rounds y.before y.begun (y :: ys) q d

/-- How a drain ends when its waits are over. -/
inductive DrainEnds (w : World ω) (passes : Nat) (p : Pool) (d : Desk ω) :
    Outcome Unit → Pool → Desk ω → Prop where
  /-- Nothing is in flight. -/
  | empty : p.inFlight = [] → DrainEnds w passes p d (.returned ()) p d
  /-- One wait more, and it ends with a fault. -/
  | raised {fault : Fault} {q : Pool} {d₁ : Desk ω} : p.inFlight ≠ [] →
    p.waitForSlot w.environment passes d = ((.raised fault, q), d₁) →
    DrainEnds w passes p d (.raised fault) q d₁
  /-- Its patience has run out. -/
  | unfinished {q : Pool} {d₁ : Desk ω} : DrainEnds w passes p d .unfinished q d₁

section Draining

variable {p q : Pool} {d d₁ : Desk ω} {passes : Nat}

/-- Every wait takes somebody out. -/
theorem Rounds.length_add_le {ys : List (Wait w passes)} (h : Rounds p d ys q d₁) :
    ys.length + q.inFlight.length ≤ p.inFlight.length := by
  induction h with
  | nil => simp
  | cons y _ ih =>
      have hlt := length_lt_of_waitForSlot y.made
      rw [List.length_cons]
      omega

/-- **The passes of waits.**  Each begins with somebody in flight, and there are as many pauses
fewer as there are waits. -/
theorem Rounds.series {ys : List (Wait w passes)} (h : Rounds p d ys q d₁) :
    ∃ xs : List (Pass w), Series p d xs q d₁ ∧ (∀ x ∈ xs, x.before.inFlight ≠ []) ∧
      (xs.flatMap Pass.ticks).countP Tick.isPause + ys.length = xs.length := by
  induction h with
  | nil p d => exact ⟨[], .nil p d, by simp, rfl⟩
  | cons y _ ih =>
      obtain ⟨rest, hrest, hne, hcount⟩ := ih
      obtain ⟨hremoved, n, xs, hseries, hanswers⟩ := series_of_waitForSlot_returned y.made
      have hticks := hseries.ticks_eq hanswers (by simpa using Nat.one_le_iff_ne_zero.mp hremoved)
      have hlength := congrArg List.length hanswers
      refine ⟨xs ++ rest, hseries.append hrest, List.forall_mem_append.mpr ⟨?_, hne⟩, ?_⟩
      · intro x hx hnil
        have hsame := hseries.sessionsOf_before hanswers x hx
        rw [hnil] at hsame
        exact ne_nil_of_waitForSlot_returned y.made (List.map_eq_nil_iff.mp hsame.symm)
      · rw [List.flatMap_append, List.countP_append, hticks, List.countP_append,
          countP_isPause_rests]
        simp only [List.length_map, List.length_append, List.length_replicate, List.length_cons,
          List.length_nil, List.countP_singleton, Tick.isPause, Bool.false_eq_true, if_false]
          at hlength ⊢
        omega

/-- **A drain is made of waits**, and then it ends. -/
theorem rounds_of_drainWithin {waits : Nat} {outcome : Outcome Unit}
    (h : p.drainWithin w.environment passes waits d = ((outcome, q), d₁)) :
    ∃ (ys : List (Wait w passes)) (p' : Pool) (d' : Desk ω),
      Rounds p d ys p' d' ∧ DrainEnds w passes p' d' outcome q d₁ := by
  induction waits generalizing p d with
  | zero =>
      refine ⟨[], p, d, .nil p d, ?_⟩
      by_cases hnil : p.inFlight = []
      · rw [drainWithin, if_pos (List.isEmpty_iff.mpr hnil)] at h
        cases h
        exact .empty hnil
      · rw [drainWithin, if_neg (by simpa using hnil)] at h
        cases h
        exact .unfinished
  | succ waits ih =>
      by_cases hnil : p.inFlight = []
      · rw [drainWithin, if_pos (List.isEmpty_iff.mpr hnil)] at h
        cases h
        exact ⟨[], _, _, .nil _ _, .empty hnil⟩
      · rw [drainWithin_of_ne_nil hnil] at h
        obtain ⟨⟨⟨removed | fault | -, q'⟩, d'⟩, hmade⟩ :
            ∃ r, p.waitForSlot w.environment passes d = r := ⟨_, rfl⟩
        · obtain ⟨ys, p', d'', hrounds, hends⟩ := ih ((run_bind hmade).symm.trans h)
          exact ⟨_, p', d'', .cons ⟨p, d, removed, q', d', hmade⟩ hrounds, hends⟩
        · cases (run_bind hmade).symm.trans h
          exact ⟨[], p, d, .nil p d, .raised hnil hmade⟩
        · cases (run_bind hmade).symm.trans h
          exact ⟨[], _, _, .nil _ _, .unfinished⟩

end Draining

/-! ## The rhythm -/

/-- The time that a pool pauses for is the one that was asked for, or zero if that is negative. -/
theorem pollInterval_of_request {capacity submissions statusChecks : Int} {seconds : Float}
    {limits : PoolLimits}
    (h : PoolLimits.ofRequest? capacity submissions seconds statusChecks = .ok limits) :
    limits.pollInterval = if 0.0 < seconds then seconds else 0.0 :=
  (PoolLimits.ofRequest?_eq_ok h).2.2.1

/-- **Waiting keeps its rhythm.**  In any world, whatever the pool is:

* a wait that returns has made one pass more than pauses.  In all passes but the last nobody has
  left, so each of them begins with the same attempts in flight, and behind each there is a pause;
  behind the last there is none.  The answer is how many have left in that one, at least one, and
  those who stay keep their order;
* a drain that returns is made of such waits, no more than attempts were in flight.  No pass begins
  with nothing in flight, behind each there is a pause only if nobody has left in it, and the pauses
  and waits together are as many as the passes;
* behind a pass that ends a wait or a drain with a fault there is no pause;
* a pause takes the time that was asked for when the pool was made, or none if that was negative. -/
theorem waiting_keeps_its_rhythm {ω : Type} (w : World ω) (passes : Nat) :
    (∀ (p q : Pool) (d d₁ : Desk ω) (removed : Nat),
      p.waitForSlot w.environment passes d = ((.returned removed, q), d₁) →
      ∃ (n : Nat) (xs : List (Pass w)), Series p d xs q d₁ ∧
        xs.map Pass.answer = List.replicate n (.ok 0) ++ [.ok removed] ∧
        (∀ x ∈ xs, sessionsOf x.before.inFlight = sessionsOf p.inFlight) ∧
        ticksIn (d₁.eventsSince d.journal.length) = rests n p.limits.pollInterval ++ [.pass] ∧
        1 ≤ removed ∧ q.inFlight.length + removed = p.inFlight.length ∧
        (sessionsOf q.inFlight).Sublist (sessionsOf p.inFlight)) ∧
    (∀ (p q : Pool) (d d₁ : Desk ω),
      p.drain w.environment passes d = ((.returned (), q), d₁) →
      ∃ (ys : List (Wait w passes)) (xs : List (Pass w)), Rounds p d ys q d₁ ∧
        Series p d xs q d₁ ∧ ys.length ≤ p.inFlight.length ∧ q.inFlight = [] ∧
        (∀ x ∈ xs, x.before.inFlight ≠ []) ∧
        ticksIn (d₁.eventsSince d.journal.length) = xs.flatMap Pass.ticks ∧
        (xs.flatMap Pass.ticks).countP Tick.isPause + ys.length = xs.length) ∧
    (∀ (p q : Pool) (d d₁ : Desk ω) (fault : Fault), p.inFlight ≠ [] →
      p.waitForSlot w.environment passes d = ((.raised fault, q), d₁) →
      ∃ (n : Nat) (xs : List (Pass w)), Series p d xs q d₁ ∧
        xs.map Pass.answer = List.replicate n (.ok 0) ++ [.error fault] ∧
        ticksIn (d₁.eventsSince d.journal.length) = rests n p.limits.pollInterval ++ [.pass]) ∧
    (∀ (p q : Pool) (d d₁ : Desk ω) (fault : Fault),
      p.drain w.environment passes d = ((.raised fault, q), d₁) →
      ∃ (ys : List (Wait w passes)) (xs : List (Pass w)) (p' : Pool) (d' : Desk ω),
        Rounds p d ys p' d' ∧ p'.waitForSlot w.environment passes d' = ((.raised fault, q), d₁) ∧
        Series p d xs q d₁ ∧ (xs.getLast?.map Pass.answer) = some (.error fault) ∧
        (ticksIn (d₁.eventsSince d.journal.length)).getLast? = some .pass) ∧
    (∀ (capacity submissions statusChecks : Int) (seconds : Float) (limits : PoolLimits),
      PoolLimits.ofRequest? capacity submissions seconds statusChecks = .ok limits →
      limits.pollInterval = if 0.0 < seconds then seconds else 0.0) := by
  refine ⟨?_, ?_, ?_, ?_, ?_⟩
  · intro p q d d₁ removed h
    obtain ⟨hremoved, n, xs, hseries, hanswers⟩ := series_of_waitForSlot_returned h
    refine ⟨n, xs, hseries, hanswers, hseries.sessionsOf_before hanswers, ?_, hremoved,
      hseries.length_add hanswers, hseries.sublist⟩
    rw [hseries.ticksIn_eq]
    exact hseries.ticks_eq hanswers (by simpa using Nat.one_le_iff_ne_zero.mp hremoved)
  · intro p q d d₁ h
    obtain ⟨ys, p', d', hrounds, hends⟩ := rounds_of_drainWithin h
    cases hends with
    | empty hnil =>
        obtain ⟨xs, hseries, hne, hcount⟩ := hrounds.series
        have hlength := hrounds.length_add_le
        exact ⟨ys, xs, hrounds, hseries, by omega, hnil, hne, hseries.ticksIn_eq, hcount⟩
  · intro p q d d₁ fault hne h
    obtain ⟨n, xs, hseries, hanswers⟩ := series_of_waitForSlot_raised hne h
    refine ⟨n, xs, hseries, hanswers, ?_⟩
    rw [hseries.ticksIn_eq]
    exact hseries.ticks_eq hanswers nofun
  · intro p q d d₁ fault h
    obtain ⟨ys, p', d', hrounds, hends⟩ := rounds_of_drainWithin h
    cases hends with
    | raised hne hwait =>
        obtain ⟨xs, hseries, -, -⟩ := hrounds.series
        obtain ⟨n, zs, hlast, hanswers⟩ := series_of_waitForSlot_raised hne hwait
        have hwhole := hseries.append hlast
        refine ⟨ys, xs ++ zs, p', d', hrounds, hwait, hwhole, ?_, ?_⟩
        · rw [← List.getLast?_map, List.map_append, hanswers, ← List.append_assoc,
            List.getLast?_concat]
        · rw [hwhole.ticksIn_eq, List.flatMap_append, hlast.ticks_eq hanswers nofun,
            ← List.append_assoc, List.getLast?_concat]
  · intro capacity submissions statusChecks seconds limits h
    exact pollInterval_of_request h

/-- A job that takes two passes to be seen finished. -/
def slowJob : Rehearsal.Services where
  jobs := {
    polls := [("/a", [.status "RUNNING", .status "COMPLETED"])]
    owners := [(1, "/a")] }

/-- The job of `slowJob`, submitted once, in flight. -/
def slowJobPool : Pool :=
  let limits : PoolLimits := {
    capacity := 1
    submissions := 1
    pollInterval := PoolLimits.clampInterval 0.0
    statusChecks := 1
    capacity_pos := Nat.one_pos
    submissions_pos := Nat.one_pos
    statusChecks_pos := Nat.one_pos }
  { limits, inFlight := [submittedOnce limits ⟨1⟩ { path := "/a" } (.ok (some 1))] }

/-- Waiting for `slowJob` takes one pause, and then the pool is empty. -/
theorem waiting_keeps_its_rhythm_at_slow_job :
    let waited := slowJobPool.waitForSlot Rehearsal.Services.world.environment 5
      { world := slowJob }
    waited.1.1 = .returned 1 ∧ waited.1.2.inFlight.length + 1 = slowJobPool.inFlight.length ∧
      ticksIn (waited.2.eventsSince 0) = rests 1 slowJobPool.limits.pollInterval ++ [.pass] := by
  intro waited
  have hreturned : waited.1.1 = .returned 1 := rfl
  obtain ⟨hwait, -⟩ := waiting_keeps_its_rhythm Rehearsal.Services.world 5
  obtain ⟨n, xs, -, -, -, hticks, -, hlength, -⟩ :=
    hwait slowJobPool waited.1.2 { world := slowJob } waited.2 1
      (Prod.ext (Prod.ext hreturned rfl) rfl)
  have hcount := congrArg (List.countP Tick.isPause) hticks
  rw [List.countP_append, countP_isPause_rests] at hcount
  obtain rfl : 1 = n := hcount
  exact ⟨hreturned, hlength, hticks⟩

end Pool

end LoadDispatch
