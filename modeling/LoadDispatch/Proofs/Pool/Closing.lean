import LoadDispatch.Proofs.Pool.Capacity
import LoadDispatch.Rehearsal.Services

/-!
# Closing a pool, and using it again

Closing empties a pool first and releases its attempts then, so whatever becomes of the releases
there is nothing left in flight.  It releases all of them: those that its owner has released before
do nothing, and the others (`Pool.due`) are closed one after the other, with a warning behind each
closing that fails (`Pool.releaseEvents`).  `ReleasesAll.parts` says this of every list of attempts
and every list of answers.

A closed pool may be used again.  What it has left behind are records only, of attempts that have
departed and of how many, and no operation reads them: `Pool.after` adds such records to a pool, and
every operation on the pool with the records is the operation on the pool without them
(`performAll_after`).  Its capacity is the same too, at every moment (`Keeps`).
-/

namespace LoadDispatch

/-- The warning that an event writes to the log, if any. -/
def Event.warning? : Event → Option LogEntry
  | .told (.log entry) => if entry.level = .warning then some entry else none
  | _ => none

namespace Pool

/-! ## Releasing everyone -/

/-- The attempts in flight that are not released yet. -/
def due (p : Pool) : List Attempt :=
  p.inFlight.filter (!·.released)

/-- What is recorded of a release with its answer: the closing, and a warning if it has failed. -/
def releaseEvents (release : Attempt × Except Fault Unit) : List Event :=
  .closed release.1.session release.2 :: releaseNotices release.1 release.2

/-- The warning of a release with its answer, if there is one. -/
def releaseWarning? (release : Attempt × Except Fault Unit) : Option LogEntry :=
  (fault? release.2).map (.releaseFailed release.1.config.path ·)

section Releases

variable {as released : List Attempt} {events : List Event} {fault : Option Fault}

/-- **Releasing goes on after every failure.**  Whoever is not released is closed, in order, and
the first fault counts. -/
theorem ReleasesAll.parts (h : ReleasesAll as events fault released) :
    ∃ answers : List (Except Fault Unit),
      answers.length = (as.filter (!·.released)).length ∧
      events = ((as.filter (!·.released)).zip answers).flatMap releaseEvents ∧
      fault = answers.findSome? fault? ∧
      released = as.map fun a => { a with released := true } := by
  induction h with
  | nil => exact ⟨[], rfl, rfl, rfl, rfl⟩
  | @cons a b rest _ xs ys answer later hrel _ ih =>
      obtain ⟨answers, hlen, hevents, hfault, hreleased⟩ := ih
      cases hrel with
      | again hr =>
          -- It does nothing, and succeeds.
          refine ⟨answers, ?_, ?_, ?_, ?_⟩
          · rw [List.filter_cons_of_neg (by simp [hr]), hlen]
          · rw [List.filter_cons_of_neg (by simp [hr]), hevents]
            rfl
          · rw [hfault]
            rfl
          · rw [List.map_cons, ← hreleased, ← hr]
      | closed _ hr =>
          refine ⟨answer :: answers, ?_, ?_, ?_, ?_⟩
          · rw [List.filter_cons_of_pos (by simp [hr]), List.length_cons, List.length_cons, hlen]
          · rw [List.filter_cons_of_pos (by simp [hr]), hevents]
            rfl
          · rw [hfault]
            cases answer <;> rfl
          · rw [List.map_cons, hreleased]

/-- Closing a pool releases everyone in flight. -/
theorem Closes.parts {p q : Pool} {answer : Except Fault Unit} (h : p.Closes events answer q) :
    ∃ answers : List (Except Fault Unit), answers.length = p.due.length ∧
      events = .told (.inFlight 0) :: (p.due.zip answers).flatMap releaseEvents ∧
      fault? answer = answers.findSome? fault? ∧
      q = { p with
        inFlight := []
        departed := p.departed ++
          p.inFlight.map fun a => ⟨.closed, { a with released := true }⟩ } := by
  obtain ⟨hreleases⟩ := h
  obtain ⟨answers, hlen, rfl, hfault, rfl⟩ := hreleases.parts
  refine ⟨answers, hlen, rfl, hfault, ?_⟩
  rw [List.map_map]
  rfl

/-- Behind a closing there is a warning if it has failed, and nothing else. -/
theorem filterMap_warning? (releases : List (Attempt × Except Fault Unit)) :
    (releases.flatMap releaseEvents).filterMap Event.warning? =
      releases.filterMap releaseWarning? := by
  have hone : ∀ release, (releaseEvents release).filterMap Event.warning? =
      (releaseWarning? release).toList := by
    rintro ⟨a, fault | ⟨⟩⟩ <;> rfl
  rw [List.filterMap_flatMap, List.filterMap_eq_flatMap_toList]
  simp only [hone]

end Releases

/-! ## Keeping to the capacity -/

/-- The events lead from `n` in flight to `m`.  At no moment are more in flight than the capacity
allows, and whenever a session is asked for there are fewer. -/
inductive Keeps (capacity : Nat) : Nat → List Event → Nat → Prop where
  /-- No event. -/
  | nil {n : Nat} : n ≤ capacity → Keeps capacity n [] n
  /-- One event, and then others. -/
  | cons {n m : Nat} {e : Event} {events : List Event} : n ≤ capacity →
    (e.asked? ≠ none → n < capacity) → Keeps capacity (e.inFlight n) events m →
    Keeps capacity n (e :: events) m

namespace Keeps

variable {capacity n m k : Nat} {xs ys events : List Event}

theorem append (h : Keeps capacity n xs m) (h' : Keeps capacity m ys k) :
    Keeps capacity n (xs ++ ys) k := by
  induction h with
  | nil => exact h'
  | cons hle hroom _ ih => exact .cons hle hroom (ih h')

theorem last_le (h : Keeps capacity n events m) : m ≤ capacity := by
  induction h with
  | nil hle => exact hle
  | cons _ _ _ ih => exact ih

/-- What asks for nothing and never raises the number keeps to the capacity. -/
theorem of_shrinks (h : Shrinks n events m) (hn : n ≤ capacity) : Keeps capacity n events m := by
  obtain ⟨hasked, hbound, rfl⟩ := h
  -- The bound stays `n`, the number in flight is anything below it.
  suffices hall : ∀ k, k ≤ n → Keeps capacity k events (inFlightAfter k events) from
    hall n (Nat.le_refl n)
  induction events with
  | nil => exact fun k hk => .nil (hk.trans hn)
  | cons e rest ih =>
      rw [List.forall_mem_cons] at hasked hbound
      intro k hk
      refine .cons (hk.trans hn) (fun hsome => absurd hasked.1 hsome) ?_
      exact ih hasked.2 hbound.2 _ (Event.inFlight_le hbound.1 (Nat.le_refl n) hk)

theorem inFlightAfter_le (h : Keeps capacity n events m) (hxs : xs <+: events) :
    inFlightAfter n xs ≤ capacity := by
  induction h generalizing xs with
  | nil hle =>
      rw [List.prefix_nil.mp hxs]
      exact hle
  | cons hle _ _ ih =>
      rcases List.prefix_cons_iff.mp hxs with rfl | ⟨rest, rfl, hrest⟩
      · exact hle
      · exact ih hrest

theorem inFlightAfter_lt (h : Keeps capacity n events m) {session : Session}
    {answer : Except Fault Unit} (hxs : xs ++ [.opened session answer] <+: events) :
    inFlightAfter n xs < capacity := by
  induction h generalizing xs with
  | nil => exact absurd (List.prefix_nil.mp hxs) (by simp)
  | cons hle hroom _ ih =>
      cases xs with
      | nil =>
          obtain ⟨rfl, -⟩ := List.cons_prefix_cons.mp hxs
          exact hroom (by simp [Event.asked?])
      | cons x rest =>
          obtain ⟨rfl, hrest⟩ := List.cons_prefix_cons.mp hxs
          exact ih hrest

end Keeps

section Operations

variable {p q : Pool} {events : List Event} {passes : Nat} {config : JobConfig}

theorem Places.keeps {answer : Except Fault Attempt} (h : Places config p events answer q)
    (hroom : p.inFlight.length < p.limits.capacity) :
    Keeps p.limits.capacity p.inFlight.length events q.inFlight.length := by
  -- The opening finds room, and what the attempt does then tells no number.
  have hopened : ∀ (session : Session) (more : List Event) (a : Attempt), (∀ e ∈ more, e.Plain) →
      Keeps p.limits.capacity p.inFlight.length
        (.opened session (.ok ()) :: .told (.inFlight (p.inFlight.length + 1)) :: more)
        (p.inFlight ++ [a]).length := by
    intro session more a hplain
    refine .cons hroom.le (fun _ => hroom) (.cons hroom.le (fun hasked => absurd rfl hasked) ?_)
    rw [List.length_append]
    exact .of_shrinks (.plain hplain) hroom
  cases h with
  | refused => exact .cons hroom.le (fun _ => hroom) (.nil hroom.le)
  | admitted hsub =>
      exact hopened _ _ _ (List.forall_mem_append.mpr ⟨hsub.plain, by simp [Event.Plain]⟩)
  | failed hsub => exact hopened _ _ _ hsub.plain

theorem Admits.keeps {outcome : Outcome Attempt} (h : Admits passes config p events outcome q)
    (hle : p.inFlight.length ≤ p.limits.capacity) :
    Keeps p.limits.capacity p.inFlight.length events q.inFlight.length := by
  cases h with
  | atOnce hfull hplace => exact hplace.keeps (length_lt_of_not_full hfull)
  | waited _ hwait hplace =>
      have hlimits := hwait.moves.limits_eq
      have hplaced := hplace.keeps (hlimits ▸ hwait.length_lt.trans_le hle)
      rw [hlimits] at hplaced
      exact (Keeps.of_shrinks hwait.shrinks hle).append hplaced
  | broken _ hwait | unfinished _ hwait => exact .of_shrinks hwait.shrinks hle

theorem Performs.keeps {o : Operation} (h : Performs passes p o events q)
    (hle : p.inFlight.length ≤ p.limits.capacity) :
    Keeps p.limits.capacity p.inFlight.length events q.inFlight.length := by
  cases h with
  | admitJob hadmit => exact hadmit.keeps hle
  | waitForSlot hwait => exact .of_shrinks hwait.shrinks hle
  | drain hdrain => exact .of_shrinks hdrain.shrinks hle
  | close hclose | leave _ hclose => exact .of_shrinks hclose.shrinks hle
  | call hcall => exact .of_shrinks hcall.shrinks hle

/-- **Operations keep to the capacity** from any pool that does. -/
theorem PerformsAll.keeps {ops : List Operation} (h : PerformsAll passes p ops events q)
    (hle : p.inFlight.length ≤ p.limits.capacity) :
    Keeps p.limits.capacity p.inFlight.length events q.inFlight.length := by
  induction h with
  | nil => exact .nil hle
  | cons hfirst _ ih =>
      have hkeeps := hfirst.keeps hle
      rw [← hfirst.limits_eq] at hkeeps hle ⊢
      exact hkeeps.append (ih hkeeps.last_le)

end Operations

/-! ## Records of what was before -/

/-- A pool with the records of an older one: who has departed from that, and how many. -/
def after (old p : Pool) : Pool :=
  { p with
    departed := old.departed ++ p.departed
    completed := old.completed + p.completed
    abandoned := old.abandoned + p.abandoned }

/-- The first computation is the second one, with the records added to the pool that it leaves. -/
def AddsRecords {m : Type → Type} [Monad m] {α : Type} (old : Pool) (x y : m (α × Pool)) : Prop :=
  x = Prod.map id old.after <$> y

section After

variable {m : Type → Type} [Monad m] [LawfulMonad m] {α β γ : Type} {old : Pool}

namespace AddsRecords

theorem pure (a : α) (p : Pool) :
    AddsRecords old (m := m) (Pure.pure (a, old.after p)) (Pure.pure (a, p)) :=
  (map_pure (Prod.map id old.after) (a, p)).symm

theorem bind {x y : m (α × Pool)} {f g : α × Pool → m (β × Pool)} (h : AddsRecords old x y)
    (hf : ∀ a p, AddsRecords old (f (a, old.after p)) (g (a, p))) :
    AddsRecords old (x >>= f) (y >>= g) := by
  show x >>= f = Prod.map id old.after <$> (y >>= g)
  rw [h, bind_map_left, map_bind]
  exact bind_congr fun r => hf r.1 r.2

/-- What the pool is not asked for is done first. -/
theorem behind {x : m γ} {f g : γ → m (β × Pool)} (hf : ∀ c, AddsRecords old (f c) (g c)) :
    AddsRecords old (x >>= f) (x >>= g) := by
  show x >>= f = Prod.map id old.after <$> (x >>= g)
  rw [map_bind]
  exact bind_congr hf

omit [LawfulMonad m] in
theorem ite {c : Prop} [Decidable c] {x y x' y' : m (α × Pool)} (h : AddsRecords old x y)
    (h' : AddsRecords old x' y') :
    AddsRecords old (if c then x else x') (if c then y else y') := by
  by_cases hc : c
  · rwa [if_pos hc, if_pos hc]
  · rwa [if_neg hc, if_neg hc]

end AddsRecords

variable (env : Environment m) (p : Pool)

theorem applySweep_after (s : Sweep) :
    (old.after p).applySweep s = old.after (p.applySweep s) := by
  simp only [after, applySweep, List.append_assoc, Nat.add_assoc]

theorem sweep_after : AddsRecords old ((old.after p).sweep env) (p.sweep env) := by
  refine .behind fun _ => .behind fun answers => ?_
  show AddsRecords old ((old.after p).finishSweep env answers) (p.finishSweep env answers)
  unfold finishSweep
  cases collect answers with
  | error fault => exact .pure _ _
  | ok statuses =>
      simp only [applySweep_after]
      refine .behind fun s => .behind fun _ => ?_
      cases s.fault with
      | some fault => exact .pure _ _
      | none => exact .pure _ _

theorem sweepUntilFreed_after (passes : Nat) :
    AddsRecords old ((old.after p).sweepUntilFreed env passes) (p.sweepUntilFreed env passes) := by
  induction passes generalizing p with
  | zero => exact .pure _ _
  | succ passes ih =>
      refine (sweep_after env p).bind ?_
      rintro (fault | removed) q
      · exact .pure _ _
      · cases removed with
        | zero => exact .behind fun _ => ih q
        | succ removed => exact .pure _ _

theorem waitForSlot_after (passes : Nat) :
    AddsRecords old ((old.after p).waitForSlot env passes) (p.waitForSlot env passes) :=
  .ite (.pure _ _) (sweepUntilFreed_after env p passes)

theorem drainWithin_after (passes waits : Nat) :
    AddsRecords old ((old.after p).drainWithin env passes waits)
      (p.drainWithin env passes waits) := by
  induction waits generalizing p with
  | zero => exact .pure _ _
  | succ waits ih =>
      refine .ite (.pure _ _) ((waitForSlot_after env p passes).bind ?_)
      rintro (removed | fault | -) q
      · exact ih q
      · exact .pure _ _
      · exact .pure _ _

theorem place_after (config : JobConfig) :
    AddsRecords old ((old.after p).place env config) (p.place env config) := by
  refine .behind ?_
  rintro (fault | session)
  · exact .pure _ _
  · refine .behind fun _ => .behind ?_
    rintro ⟨fault | granted, a⟩
    · exact .pure _ { p with inFlight := p.inFlight ++ [a] }
    · exact .behind fun _ => .pure _ { p with inFlight := p.inFlight ++ [a] }

theorem admitJob_after (passes : Nat) (config : JobConfig) :
    AddsRecords old ((old.after p).admitJob env passes config) (p.admitJob env passes config) := by
  refine .ite ((waitForSlot_after env p passes).bind ?_)
    ((place_after env p config).bind fun _ _ => .pure _ _)
  rintro (removed | fault | -) q
  · exact (place_after env q config).bind fun _ _ => .pure _ _
  · exact .pure _ _
  · exact .pure _ _

theorem close_after : AddsRecords old ((old.after p).close env) (p.close env) := by
  refine .behind fun _ => .behind ?_
  rintro ⟨fault, released⟩
  have hpool : { old.after p with
      inFlight := []
      departed := (old.after p).departed ++ released.map (Departed.mk .closed) } =
      old.after { p with
        inFlight := []
        departed := p.departed ++ released.map (Departed.mk .closed) } := by
    simp only [after, List.append_assoc]
  simp only [hpool]
  cases fault with
  | none => exact .pure _ _
  | some fault => exact .pure _ _

theorem abort_after : AddsRecords old ((old.after p).abort env) (p.abort env) := by
  refine (close_after env p).bind ?_
  rintro (fault | ⟨⟩) q
  · exact .pure _ _
  · exact .pure _ _

end After

section AfterCalls

variable {ω : Type} {w : World ω} {old : Pool} {session : Session}

/-- What the pool is not asked for is done first, and its answer is what it is known to be. -/
theorem AddsRecords.behind_ensured {β γ : Type} {x : Recorded ω γ}
    {f g : γ → Recorded ω (β × Pool)} {Q : γ → List Event → Prop} (hx : Ensures w x Q)
    (hf : ∀ c events, Q c events → AddsRecords old (f c) (g c)) :
    AddsRecords old (x >>= f) (x >>= g) := by
  show x >>= f = Prod.map id old.after <$> (x >>= g)
  funext d
  obtain ⟨c, events, d₁, hd, -, hQ⟩ := hx d
  rw [map_bind, run_bind hd, run_bind hd, hf c events hQ]

theorem session_ne_of_find?_eq_none (h : old.find? session = none) :
    ∀ x ∈ old.departed, x.attempt.session ≠ session := by
  intro x hx
  have hmem : x.attempt ∈ old.inFlight ++ old.departed.map (·.attempt) :=
    List.mem_append_right _ (List.mem_map_of_mem hx)
  simpa using List.find?_eq_none.mp h _ hmem

theorem find?_after (p : Pool) (h : old.find? session = none) :
    (old.after p).find? session = p.find? session := by
  have hold : (old.departed.map (·.attempt)).find? (·.session == session) = none := by
    refine List.find?_eq_none.mpr fun a ha => ?_
    obtain ⟨x, hx, rfl⟩ := List.mem_map.mp ha
    simpa using session_ne_of_find?_eq_none h x hx
  show (p.inFlight ++ (old.departed ++ p.departed).map (·.attempt)).find? _ = _
  rw [List.map_append, List.find?_append, List.find?_append, hold, Option.none_or,
    ← List.find?_append]
  rfl

theorem replace_after (p : Pool) {b : Attempt} (h : old.find? b.session = none) :
    (old.after p).replace b = old.after (p.replace b) := by
  have hold : old.departed.map (fun x => { x with
      attempt := if x.attempt.session = b.session then b else x.attempt }) = old.departed := by
    refine (List.map_congr_left fun x hx => ?_).trans (List.map_id old.departed)
    rw [if_neg (session_ne_of_find?_eq_none h x hx)]
    rfl
  simp only [replace, after, List.map_append, hold]

theorem call_after (p : Pool) (c : Attempt.Call) (h : old.find? session = none) :
    AddsRecords old ((old.after p).call w.environment session c)
      (p.call w.environment session c) := by
  unfold call
  rw [find?_after p h]
  match hfind : p.find? session with
  | none => exact .pure _ _
  | some a =>
      refine .behind_ensured (a.perform_ensures c) fun r events hperform => ?_
      -- The attempt goes back to its own place, and that is not among the records.
      have hsession : r.2.session = session := by
        rw [hperform.lives.course.session_eq]
        exact (find?_eq_some hfind).2
      simp only [replace_after p (hsession ▸ h)]
      exact .pure _ _

/-- The attempts that an operation calls are not among the records of a pool. -/
def Operation.SparesRecords (old : Pool) : Operation → Prop
  | .call session _ => old.find? session = none
  | _ => True

theorem perform_after (passes : Nat) (p : Pool) {o : Operation} (h : o.SparesRecords old) :
    AddsRecords old ((old.after p).perform w.environment passes o)
      (p.perform w.environment passes o) := by
  match o, h with
  | .admitJob config, _ =>
      exact (admitJob_after _ p passes config).bind fun _ _ => .pure _ _
  | .waitForSlot, _ => exact (waitForSlot_after _ p passes).bind fun _ _ => .pure _ _
  | .drain, _ => exact (drainWithin_after _ p passes _).bind fun _ _ => .pure _ _
  | .close, _ => exact (close_after _ p).bind fun _ _ => .pure _ _
  | .leave none, _ => exact (close_after _ p).bind fun _ _ => .pure _ _
  | .leave (some _), _ => exact (abort_after _ p).bind fun _ _ => .pure _ _
  | .call session c, h =>
      refine (call_after p c h).bind ?_
      rintro (_ | answer) q
      · exact .pure _ _
      · exact .pure _ _

/-- **No operation reads the records of a pool.** -/
theorem performAll_after (passes : Nat) (p : Pool) {ops : List Operation}
    (h : ∀ o ∈ ops, o.SparesRecords old) :
    AddsRecords old ((old.after p).performAll w.environment passes ops)
      (p.performAll w.environment passes ops) := by
  induction ops generalizing p with
  | nil => exact .pure _ _
  | cons o rest ih =>
      rw [List.forall_mem_cons] at h
      refine (perform_after passes p h.1).bind fun outcome q => ?_
      exact (ih q h.2).bind fun _ _ => .pure _ _

end AfterCalls

/-! ## Closing -/

section Empty

variable {p q : Pool}

theorem Closes.limits_eq {events : List Event} {answer : Except Fault Unit}
    (h : p.Closes events answer q) : q.limits = p.limits := by
  cases h
  rfl

/-- With nothing in flight, closing only tells so. -/
theorem close_of_inFlight_eq_nil {ω : Type} (w : World ω) (h : p.inFlight = []) (d : Desk ω) :
    p.close w.environment d = ((.ok (), p), d.write (.told (.inFlight 0))) := by
  obtain ⟨limits, inFlight, departed, completed, abandoned⟩ := p
  obtain rfl : inFlight = [] := h
  show (((.ok () : Except Fault Unit), Pool.mk limits [] (departed ++ []) completed abandoned), _) =
    _
  rw [List.append_nil]
  rfl

/-- With nothing in flight, a pool is a new one with records. -/
theorem after_eq_self (h : p.inFlight = []) : p.after { limits := p.limits } = p := by
  obtain ⟨limits, inFlight, departed, completed, abandoned⟩ := p
  obtain rfl : inFlight = [] := h
  simp only [after, List.append_nil, Nat.add_zero]

end Empty

/-- **Closing releases everyone, and the pool can be used again.**  In any world, whatever the pool
is and whichever closings fail:

* whoever in flight is not released is closed once, in order, and behind each closing that fails
  there is one warning.  The first fault among the answers is the answer, if there is one;
* what is left has nothing in flight.  The limits, the counters and the attempts themselves are
  what they were, but that all of these are released now;
* closing again does nothing and succeeds;
* whatever is done with the pool then, at no moment are more in flight than the capacity allows, and
  a session is asked for only when there are fewer;
* as long as nobody calls an attempt of before, all that is done with it is what would be done with
  a new pool with the same limits. -/
theorem closing_releases_everyone {ω : Type} (w : World ω) (p : Pool) (d : Desk ω) :
    let answer := (p.close w.environment d).1.1
    let q := (p.close w.environment d).1.2
    let events := (p.close w.environment d).2.eventsSince d.journal.length
    (∃ answers : List (Except Fault Unit), answers.length = p.due.length ∧
      events = .told (.inFlight 0) :: (p.due.zip answers).flatMap releaseEvents ∧
      events.filterMap Event.warning? = (p.due.zip answers).filterMap releaseWarning? ∧
      fault? answer = answers.findSome? fault?) ∧
    q = { p with
      inFlight := []
      departed := p.departed ++ p.inFlight.map fun a => ⟨.closed, { a with released := true }⟩ } ∧
    (∀ d₁, q.close w.environment d₁ = ((.ok (), q), d₁.write (.told (.inFlight 0)))) ∧
    (∀ passes ops d₁,
      let later := (q.performAll w.environment passes ops d₁).2.eventsSince d₁.journal.length
      (∀ xs, xs <+: later → inFlightAfter 0 xs ≤ p.limits.capacity) ∧
      (∀ xs session opening, xs ++ [.opened session opening] <+: later →
        inFlightAfter 0 xs < p.limits.capacity)) ∧
    (∀ passes ops d₁, (∀ o ∈ ops, o.SparesRecords q) →
      let anew := ({ limits := p.limits } : Pool).performAll w.environment passes ops d₁
      q.performAll w.environment passes ops d₁ = ((anew.1.1, q.after anew.1.2), anew.2)) := by
  intro answer q events
  have hcloses : p.Closes events answer q := (p.close_ensures.of_run rfl).2
  have hq : q.inFlight = [] := hcloses.inFlight_eq
  have hlimits : q.limits = p.limits := hcloses.limits_eq
  obtain ⟨answers, hlen, hevents, hfault, hpool⟩ := hcloses.parts
  refine ⟨?_, ?_, close_of_inFlight_eq_nil w hq, ?_, ?_⟩
  · refine ⟨answers, hlen, hevents, ?_, hfault⟩
    rw [hevents]
    exact filterMap_warning? _
  · exact hpool
  · intro passes ops d₁ later
    have hops : PerformsAll passes q ops later (q.performAll w.environment passes ops d₁).1.2 :=
      ((performAll_ensures passes q ops).of_run rfl).2
    have hkeeps := hops.keeps (hq ▸ Nat.zero_le _)
    rw [hq, hlimits] at hkeeps
    exact ⟨fun xs hxs => hkeeps.inFlightAfter_le hxs,
      fun xs session opening hxs => hkeeps.inFlightAfter_lt hxs⟩
  · intro passes ops d₁ hops anew
    have hadds := performAll_after (w := w) passes { limits := p.limits } hops
    rw [← hlimits, after_eq_self hq, hlimits] at hadds
    exact congrFun hadds d₁

/-- Two sessions that cannot be closed. -/
def lockedSessions : Rehearsal.Services where
  jobs := { closeFaults := [(1, .outside .runtime "locked"), (3, .outside .runtime "lost")] }

/-- Three attempts in flight, the second of them released by its owner. -/
def threeInFlight : Pool :=
  let limits : PoolLimits := {
    capacity := 4
    submissions := 1
    pollInterval := PoolLimits.clampInterval 0.0
    statusChecks := 1
    capacity_pos := Nat.succ_pos 3
    submissions_pos := Nat.one_pos
    statusChecks_pos := Nat.one_pos }
  { limits
    inFlight := [
      submittedOnce limits ⟨1⟩ { path := "/a" } (.ok (some 1)),
      { submittedOnce limits ⟨2⟩ { path := "/b" } (.ok (some 2)) with released := true },
      submittedOnce limits ⟨3⟩ { path := "/c" } (.ok none)] }

/-- With `lockedSessions` two closings fail and the first fault is the answer; then a job is
admitted as it is to a new pool. -/
theorem closing_releases_everyone_at_locked_sessions :
    let closed := threeInFlight.close Rehearsal.Services.world.environment
      { world := lockedSessions }
    let job : Operation := .admitJob { path := "/d" }
    closed.1.1 = .error (.outside .runtime "locked") ∧
    (∃ answers : List (Except Fault Unit), answers.length = 2 ∧
      answers.findSome? fault? = some (.outside .runtime "locked")) ∧
    job.SparesRecords closed.1.2 ∧
    (closed.1.2.performAll Rehearsal.Services.world.environment 1 [job] closed.2).1.1 =
      (({ limits := threeInFlight.limits } : Pool).performAll
        Rehearsal.Services.world.environment 1 [job] closed.2).1.1 := by
  intro closed job
  obtain ⟨⟨answers, hlen, -, -, hfault⟩, -, -, -, hanew⟩ :=
    closing_releases_everyone Rehearsal.Services.world threeInFlight { world := lockedSessions }
  refine ⟨rfl, ⟨answers, hlen, hfault.symm⟩, trivial, ?_⟩
  have hspares : ∀ o ∈ [job], o.SparesRecords closed.1.2 := by
    intro o ho
    rw [List.mem_singleton.mp ho]
    exact trivial
  exact congrArg (fun r => r.1.1) (hanew 1 [job] closed.2 hspares)

end Pool

end LoadDispatch
