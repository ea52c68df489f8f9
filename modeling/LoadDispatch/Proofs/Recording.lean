import LoadDispatch.Trace
import Mathlib.Data.List.Nodup
import Mathlib.Data.List.Range

/-!
# What a run adds to the journal

Everything that is done at a desk is a function of the desk.  Two things make such functions easy
to reason about: they only *add* to the journal, and what they add is all that the rest of a run
ever shows.  `Records w d events d'` says both of two desks, and `Ensures w x Q` says of a recorded
computation that its answer and the events that it adds satisfy `Q`, on whatever desk it starts.

`Ensures` is built up along `pure` and `bind` from one rule for each operation of a world, so no
statement beyond this module mentions a desk until the very end, where `Records.eventsSince` reads
the events off the journal again.

Two facts about the events come for free, and both are part of `Records`:

* each answer is one that the world can give (`World.Gives`);
* the sessions that are asked for are numbered one after the other, so no session is opened
  twice (`Records.nodup_askedIn`).
-/

namespace LoadDispatch

variable {ω α β : Type}

/-- The session that an event asks for, whether it can be opened or not. -/
def Event.asked? : Event → Option Session
  | .opened session _ => some session
  | _ => none

/-- The sessions that were asked for, in order. -/
def askedIn (events : List Event) : List Session :=
  events.filterMap Event.asked?

@[simp] theorem askedIn_append (xs ys : List Event) :
    askedIn (xs ++ ys) = askedIn xs ++ askedIn ys :=
  List.filterMap_append

/-- Whether the answer that an event shows is one that the world can give. -/
def World.Gives (w : World ω) : Event → Prop
  | .opened session answer => ∃ s, (w.connect session s).1 = answer
  | .submitted session config answer => ∃ s, (w.submit session config s).1 = answer
  | .polled session job answer => ∃ s, (w.poll session job s).1 = answer
  | .closed session answer => ∃ s, (w.close session s).1 = answer
  | .statted path answer => ∃ s, (w.stat path s).1 = answer
  | .listed path answer => ∃ s, (w.list path s).1 = answer
  | _ => True

/-- Between two desks exactly the given events were recorded. -/
structure Records (w : World ω) (d : Desk ω) (events : List Event) (d' : Desk ω) : Prop where
  /-- They were added to the journal, latest first. -/
  journal : d'.journal = events.reverse ++ d.journal
  /-- They show answers of the world. -/
  given : ∀ e ∈ events, w.Gives e
  /-- The desk has counted the sessions that were asked for. -/
  sessions : d'.sessions = d.sessions + (askedIn events).length
  /-- They are numbered on from those before. -/
  numbers : (askedIn events).map (·.number) =
    List.range' (d.sessions + 1) (askedIn events).length

namespace Records

variable {w : World ω} {d d₁ d₂ : Desk ω} {xs ys : List Event}

theorem refl (w : World ω) (d : Desk ω) : Records w d [] d :=
  ⟨rfl, by simp, rfl, rfl⟩

theorem append (h₁ : Records w d xs d₁) (h₂ : Records w d₁ ys d₂) :
    Records w d (xs ++ ys) d₂ := by
  refine ⟨?_, ?_, ?_, ?_⟩
  · rw [h₂.journal, h₁.journal, List.reverse_append, List.append_assoc]
  · intro e he
    rcases List.mem_append.mp he with he | he
    · exact h₁.given e he
    · exact h₂.given e he
  · rw [h₂.sessions, h₁.sessions, askedIn_append, List.length_append, Nat.add_assoc]
  · have h := h₂.numbers
    rw [h₁.sessions] at h
    rw [askedIn_append, List.map_append, List.length_append, h₁.numbers, h,
      Nat.add_right_comm, List.range'_append_1]

/-- The events between two desks are those that the later one has on top of the earlier one's. -/
theorem eventsSince (h : Records w d xs d₁) : d₁.eventsSince d.journal.length = xs := by
  rw [Desk.eventsSince, h.journal]
  simp

/-- No session is asked for twice. -/
theorem nodup_askedIn (h : Records w d xs d₁) : (askedIn xs).Nodup := by
  -- Sessions are different if their numbers are.
  refine List.Nodup.of_map (·.number) ?_
  rw [h.numbers]
  exact List.nodup_range'

/-- One event that asks for no session. -/
theorem single {e : Event} {ω' : ω} (hasked : e.asked? = none) (hgiven : w.Gives e) :
    Records w d [e] ({ d with world := ω' }.write e) := by
  refine ⟨rfl, ?_, ?_, ?_⟩
  · intro e' he'
    rw [List.mem_singleton.mp he']
    exact hgiven
  · simp [askedIn, hasked, Desk.write]
  · simp [askedIn, hasked]

end Records

/-- A run of two computations is a run of the first and then one of the second. -/
theorem run_bind {σ : Type} {x : StateM σ α} {f : α → StateM σ β} {d d₁ : σ} {a : α}
    (h : x d = (a, d₁)) : (x >>= f) d = f a d₁ := by
  show StateT.bind x f d = _
  simp only [StateT.bind, h]
  rfl

/-- On whatever desk `x` is run, it ends with an answer and has added events that satisfy `Q`. -/
def Ensures (w : World ω) (x : Recorded ω α) (Q : α → List Event → Prop) : Prop :=
  ∀ d, ∃ a events d', x d = (a, d') ∧ Records w d events d' ∧ Q a events

namespace Ensures

variable {w : World ω} {x : Recorded ω α} {P Q : α → List Event → Prop}

theorem pure {a : α} (h : Q a []) : Ensures w (Pure.pure a) Q :=
  fun d => ⟨a, [], d, rfl, .refl w d, h⟩

theorem mono (hx : Ensures w x P) (h : ∀ a events, P a events → Q a events) :
    Ensures w x Q := by
  intro d
  obtain ⟨a, events, d', hd, hr, hP⟩ := hx d
  exact ⟨a, events, d', hd, hr, h a events hP⟩

/-- One computation after the other: the second one is asked for a postcondition about both. -/
theorem bind {f : α → Recorded ω β} {R : β → List Event → Prop} (hx : Ensures w x P)
    (hf : ∀ a events, P a events → Ensures w (f a) fun b more => R b (events ++ more)) :
    Ensures w (x >>= f) R := by
  intro d
  obtain ⟨a, events, d₁, hd, hr, hP⟩ := hx d
  obtain ⟨b, more, d₂, hd', hr', hR⟩ := hf a events hP d₁
  exact ⟨b, events ++ more, d₂, (run_bind hd).trans hd', hr.append hr', hR⟩

/-- What is ensured can be read off a run. -/
theorem of_run (hx : Ensures w x Q) {d d' : Desk ω} {a : α} (h : x d = (a, d')) :
    Records w d (d'.eventsSince d.journal.length) d' ∧
      Q a (d'.eventsSince d.journal.length) := by
  obtain ⟨a', events, d₁, hd, hr, hQ⟩ := hx d
  rw [h] at hd
  cases hd
  rw [hr.eventsSince]
  exact ⟨hr, hQ⟩

/-! ### The operations of a world -/

theorem tell (n : Notice) :
    Ensures w (w.environment.tell n) fun _ events => events = [.told n] :=
  fun _ => ⟨(), _, _, rfl, .single rfl trivial, rfl⟩

theorem report (step : Progress) :
    Ensures w (w.environment.report step) fun answer events =>
      answer = .ok () ∧ events = [.told (.progress step)] :=
  fun _ => ⟨.ok (), _, _, rfl, .single rfl trivial, rfl, rfl⟩

theorem pause (seconds : Float) :
    Ensures w (w.environment.pause seconds) fun _ events => events = [.paused seconds] :=
  fun _ => ⟨(), _, _, rfl, .single rfl trivial, rfl⟩

theorem connect :
    Ensures w w.environment.jobs.connect fun answer events =>
      ∃ session opening, events = [.opened session opening] ∧
        answer = opening.map fun _ => session := by
  intro d
  refine ⟨_, _, _, rfl, ⟨rfl, ?_, rfl, rfl⟩, ⟨d.sessions + 1⟩, _, rfl, rfl⟩
  intro e he
  rw [List.mem_singleton.mp he]
  exact ⟨d.world, rfl⟩

theorem submit (session : Session) (config : JobConfig) :
    Ensures w (w.environment.jobs.submit session config) fun answer events =>
      events = [.submitted session config answer] :=
  fun d => ⟨_, _, _, rfl, .single rfl ⟨d.world, rfl⟩, rfl⟩

theorem poll (session : Session) (job : Int) :
    Ensures w (w.environment.jobs.poll session job) fun answer events =>
      events = [.polled session job answer] :=
  fun d => ⟨_, _, _, rfl, .single rfl ⟨d.world, rfl⟩, rfl⟩

theorem close (session : Session) :
    Ensures w (w.environment.jobs.close session) fun answer events =>
      events = [.closed session answer] :=
  fun d => ⟨_, _, _, rfl, .single rfl ⟨d.world, rfl⟩, rfl⟩

theorem stat (path : String) :
    Ensures w (w.environment.files.stat path) fun answer events =>
      events = [.statted path answer] :=
  fun d => ⟨_, _, _, rfl, .single rfl ⟨d.world, rfl⟩, rfl⟩

theorem list (path : String) :
    Ensures w (w.environment.files.list path) fun answer events =>
      events = [.listed path answer] :=
  fun d => ⟨_, _, _, rfl, .single rfl ⟨d.world, rfl⟩, rfl⟩

end Ensures

end LoadDispatch
