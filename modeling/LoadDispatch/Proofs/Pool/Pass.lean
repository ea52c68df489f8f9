import LoadDispatch.Proofs.Pool.Conduct
import Mathlib.Data.List.Nodup

/-!
# One attempt in a sweep

A sweep is about all attempts in flight at once, and its events are those of all of them.  Since
each attempt has a session of its own, the sweep can be read one attempt at a time.

`Attempt.Passes` is the part of one attempt: it is asked, and then it is settled or, if the sweep
is broken off before its turn, left as it is.  `Pool.Turn` puts such parts together, and says what
they do to the lists and the counters of the pool; `Pool.Sweeps.turn` says that every sweep is one,
broken off or not.

Which of the two it is cannot always be told from the calls of an attempt, so there is a relation
for it: `Pool.Processes` says that in a given sweep it came to the turn of an attempt, and what was
done then.  If a sweep goes through, it came to the turn of everyone; if it ends with a fault, one
attempt is to blame (`Pool.Sweeps.blame`).

A turn is stated for parts of any kind, since a sweep is not the only one that consists of them:
when a pool is closed, and when an attempt is called by the owner of the pool, the parts are
others and all the rest is the same.
-/

namespace LoadDispatch

/-! ## The part of one attempt -/

/-- The part of one attempt in a sweep: its calls, the attempt afterwards, and why it left, if it
did. -/
inductive Attempt.Passes (a : Attempt) : List Event → Attempt → Option Departure → Prop where
  /-- The attempt is asked and not settled. -/
  | asked {xs : List Event} {answer : Except Fault PolledStatus} : a.Asks xs answer →
    Passes a (callsOn a.session xs) a none
  /-- The attempt is asked and settled. -/
  | settled {xs ys : List Event} {status : PolledStatus} {first : Settlement} :
    a.Asks xs (.ok status) → a.Settles status ys first →
    Passes a (callsOn a.session xs ++ callsOn a.session ys) first.attempt first.departure

namespace Attempt.Passes

variable {a b : Attempt} {calls : List Event} {why : Option Departure}

theorem course (h : a.Passes calls b why) : a.Course calls b := by
  cases h with
  | asked h => exact h.lives.course
  | settled h h' => exact h.lives.course.trans h'.lives.course

/-- An attempt that stays is released only if it was before. -/
theorem released_eq (h : a.Passes calls b none) : b.released = a.released := by
  generalize hwhy : (none : Option Departure) = why at h
  cases h with
  | asked => rfl
  | settled _ h' => exact h'.released_eq hwhy.symm

/-- An attempt that leaves is released, and not because the pool is closed. -/
theorem released {r : Departure} (h : a.Passes calls b (some r)) :
    b.released = true ∧ r ≠ .closed := by
  generalize hwhy : some r = why at h
  cases h with
  | asked => cases hwhy
  | settled _ h' =>
      cases h' with
      | pending | resubmitted | failed | unknown => cases hwhy
      | finished _ hrel =>
          cases hwhy
          exact ⟨hrel.released, by decide⟩
      | givenUp _ hrel =>
          cases hwhy
          exact ⟨hrel.released, by decide⟩

/-- **Who is counted as completed was seen finished.**  The last call before the closing is a
status query that was answered by a finished status. -/
theorem of_completed (h : a.Passes calls b (some .completed)) :
    ∃ job status answer, status.isFinished = true ∧
      calls = [.polled a.session job (.ok (.known status)), .closed a.session answer] := by
  generalize hwhy : some Departure.completed = why at h
  cases h with
  | asked => cases hwhy
  | settled hask h' =>
      cases h' with
      | pending | resubmitted | failed | unknown | givenUp => cases hwhy
      | @finished status _ answer _ hfin hrel =>
          have hne : PolledStatus.known status ≠ .known .failed := by
            rintro ⟨⟩
            exact absurd hfin (by decide)
          obtain ⟨job, hjob⟩ := hask.polled_of_ne_failed hne
          cases hrel with
          | again hr => rw [hask.released_eq_false] at hr; cases hr
          | closed => exact ⟨job, status, answer, hfin, by rw [hjob]; simp⟩

/-- Who is counted as abandoned has used its budget up. -/
theorem of_abandoned (h : a.Passes calls b (some .abandoned)) :
    b.budget.used = b.budget.limit := by
  generalize hwhy : some Departure.abandoned = why at h
  cases h with
  | asked => cases hwhy
  | settled _ h' =>
      cases h' with
      | pending | resubmitted | failed | unknown | finished => cases hwhy
      | givenUp hsub hrel =>
          obtain ⟨rfl, -, hspent⟩ := hsub.spent_of_false
          cases hrel <;> exact hspent

end Attempt.Passes

/-! ## Asking and settling, one attempt at a time -/

section Lists

variable {as : List Attempt} {events : List Event}
  {answers : List (Except Fault PolledStatus)} {pairs : List (Attempt × PolledStatus)} {s : Sweep}

theorem AsksAll.among (h : AsksAll as events answers) :
    ∀ e ∈ events, e.Among (sessionsOf as) := by
  induction h with
  | nil => simp
  | cons hask _ ih => exact among_append hask.lives.own ih (by simp) (by simp)

/-- With sessions of their own, the calls of one attempt are those of its own query. -/
theorem AsksAll.of_mem_zip (h : AsksAll as events answers) (hn : (sessionsOf as).Nodup)
    {a : Attempt} {answer : Except Fault PolledStatus} (hmem : (a, answer) ∈ as.zip answers) :
    ∃ own, a.Asks own answer ∧ callsOn a.session events = callsOn a.session own := by
  induction h with
  | nil => simp at hmem
  | @cons b rest xs ys _ _ hask hrest ih =>
      rw [sessionsOf_cons, List.nodup_cons] at hn
      rw [List.zip_cons_cons, List.mem_cons] at hmem
      rw [callsOn_append]
      rcases hmem with heq | hmem
      · -- The others have other sessions.
        cases heq
        exact ⟨xs, hask, by rw [callsOn_eq_nil hrest.among hn.1, List.append_nil]⟩
      · obtain ⟨own, hown, hcalls⟩ := ih hn.2 hmem
        have hne := session_not_mem_singleton hn.1 (List.of_mem_zip hmem).1
        exact ⟨own, hown, by rw [callsOn_eq_nil hask.lives.own hne, hcalls, List.nil_append]⟩

/-- The same if everyone has a status. -/
theorem AsksAll.of_mem_zip_statuses {statuses : List PolledStatus}
    (h : AsksAll as events (statuses.map .ok)) (hn : (sessionsOf as).Nodup) {a : Attempt}
    {status : PolledStatus} (hmem : (a, status) ∈ as.zip statuses) :
    ∃ own, a.Asks own (.ok status) ∧ callsOn a.session events = callsOn a.session own := by
  refine h.of_mem_zip hn ?_
  rw [List.zip_map_right]
  exact List.mem_map.mpr ⟨(a, status), hmem, rfl⟩

theorem AsksAll.length_eq (h : AsksAll as events answers) : as.length = answers.length := by
  induction h with
  | nil => rfl
  | cons _ _ ih => rw [List.length_cons, List.length_cons, ih]

/-- If the statuses cannot be collected, somebody had none. -/
theorem AsksAll.of_collect_error (h : AsksAll as events answers) {fault : Fault}
    (hc : collect answers = .error fault) : ∃ a, (a, .error fault) ∈ as.zip answers := by
  induction h with
  | nil => cases hc
  | @cons a rest _ _ answer answers _ _ ih =>
      cases answer with
      | error =>
          cases hc
          exact ⟨a, List.mem_cons_self⟩
      | ok status =>
          rw [collect] at hc
          cases hrest : collect answers with
          | error fault' =>
              rw [hrest] at hc
              cases hc
              obtain ⟨b, hmem⟩ := ih hrest
              exact ⟨b, List.mem_cons_of_mem _ hmem⟩
          | ok statuses =>
              rw [hrest] at hc
              cases hc

theorem Sweep.answer_of_fault {fault : Fault} (h : s.fault = some fault) :
    s.answer = .error fault := by
  rw [Sweep.answer, h]

theorem Sweep.fault_of_answer {fault : Fault} (h : s.answer = .error fault) :
    s.fault = some fault := by
  unfold Sweep.answer at h
  split at h
  · next hfault => rw [hfault, Except.error.inj h]
  · cases h

/-- An attempt is in a sweep: among those that stay, or among those that left for a reason. -/
def Sweep.Has (s : Sweep) (b : Attempt) : Option Departure → Prop
  | none => b ∈ s.kept
  | some why => ⟨why, b⟩ ∈ s.gone

theorem Sweep.has_cons {first : Settlement} {b : Attempt} {why : Option Departure} :
    (Sweep.cons first s).Has b why ↔
      (b = first.attempt ∧ why = first.departure) ∨ s.Has b why := by
  unfold Sweep.cons
  match first, why with
  | ⟨a, none, _⟩, none => simp [Sweep.Has]
  | ⟨a, none, _⟩, some why => simp [Sweep.Has]
  | ⟨a, some _, _⟩, none => simp [Sweep.Has]
  | ⟨a, some _, _⟩, some why => simp [Sweep.Has, and_comm]

theorem SettlesAll.among (h : SettlesAll pairs events s) :
    ∀ e ∈ events, e.Among (sessionsOf (pairs.map Prod.fst)) := by
  induction h with
  | nil => simp
  | cons hset _ _ ih => exact among_append hset.lives.own ih (by simp) (by simp)
  | broken hset =>
      intro e he
      exact (hset.lives.own e he).mono (by simp)

/-! ### Whose turn it was -/

/-- Settling comes to the turn of an attempt: those in front of it are settled without a fault, and
then its own status is. -/
inductive SettlesAt (a : Attempt) (status : PolledStatus) (own : List Event) (first : Settlement) :
    List (Attempt × PolledStatus) → List Event → Sweep → Prop where
  /-- It is the first one, and the sweep is broken off. -/
  | broken {rest : List (Attempt × PolledStatus)} {fault : Fault} :
    a.Settles status own first → first.fault = some fault →
    SettlesAt a status own first ((a, status) :: rest) own
      (.cons first (.broken (rest.map Prod.fst) fault))
  /-- It is the first one, and the others follow. -/
  | here {rest : List (Attempt × PolledStatus)} {ys : List Event} {s : Sweep} :
    a.Settles status own first → first.fault = none → SettlesAll rest ys s →
    SettlesAt a status own first ((a, status) :: rest) (own ++ ys) (.cons first s)
  /-- It stands behind one that is settled. -/
  | behind {c : Attempt} {status' : PolledStatus} {rest : List (Attempt × PolledStatus)}
      {xs ys : List Event} {next : Settlement} {s : Sweep} :
    c.Settles status' xs next → next.fault = none → SettlesAt a status own first rest ys s →
    SettlesAt a status own first ((c, status') :: rest) (xs ++ ys) (.cons next s)

theorem Sweep.fault_cons (first : Settlement) (s : Sweep) :
    (Sweep.cons first s).fault = s.fault := by
  unfold Sweep.cons
  match first with
  | ⟨_, none, _⟩ => rfl
  | ⟨_, some _, _⟩ => rfl

namespace SettlesAt

variable {a : Attempt} {status : PolledStatus} {own : List Event} {first : Settlement}

theorem settles (h : SettlesAt a status own first pairs events s) :
    a.Settles status own first := by
  induction h with
  | broken hset | here hset => exact hset
  | behind _ _ _ ih => exact ih

theorem mem (h : SettlesAt a status own first pairs events s) : (a, status) ∈ pairs := by
  induction h with
  | broken | here => exact List.mem_cons_self
  | behind _ _ _ ih => exact List.mem_cons_of_mem _ ih

/-- The attempt is where its settlement says. -/
theorem has (h : SettlesAt a status own first pairs events s) :
    s.Has first.attempt first.departure := by
  induction h with
  | broken | here => exact Sweep.has_cons.mpr (.inl ⟨rfl, rfl⟩)
  | behind _ _ _ ih => exact Sweep.has_cons.mpr (.inr ih)

/-- A fault of its settlement is the one that breaks the sweep off. -/
theorem fault_eq (h : SettlesAt a status own first pairs events s) {fault : Fault}
    (hfault : first.fault = some fault) : s.fault = some fault := by
  induction h with
  | broken _ hfault' =>
      rw [hfault] at hfault'
      rw [Sweep.fault_cons, Sweep.broken, hfault']
  | here _ hnone =>
      rw [hfault] at hnone
      cases hnone
  | behind _ _ _ ih => rw [Sweep.fault_cons, ih]

/-- With sessions of their own, the calls of one attempt are those of its own settlement. -/
theorem calls_eq (h : SettlesAt a status own first pairs events s)
    (hn : (sessionsOf (pairs.map Prod.fst)).Nodup) :
    callsOn a.session events = callsOn a.session own := by
  induction h with
  | broken => rfl
  | here _ _ hrest =>
      rw [List.map_cons, sessionsOf_cons, List.nodup_cons] at hn
      rw [callsOn_append, callsOn_eq_nil hrest.among hn.1, List.append_nil]
  | behind hset _ hrest ih =>
      rw [List.map_cons, sessionsOf_cons, List.nodup_cons] at hn
      have hne := session_not_mem_singleton hn.1 (List.mem_map_of_mem hrest.mem)
      rw [callsOn_append, callsOn_eq_nil hset.lives.own hne, ih hn.2, List.nil_append]

end SettlesAt

/-- If settling ends with a fault, it is that of an attempt whose turn had come. -/
theorem SettlesAll.of_fault (h : SettlesAll pairs events s) {fault : Fault}
    (hfault : s.fault = some fault) :
    ∃ a status own first, SettlesAt a status own first pairs events s ∧
      first.fault = some fault := by
  induction h with
  | nil => cases hfault
  | cons hset hnone _ ih =>
      rw [Sweep.fault_cons] at hfault
      obtain ⟨a, status, own, first, hat, hfirst⟩ := ih hfault
      exact ⟨a, status, own, first, .behind hset hnone hat, hfirst⟩
  | broken hset hbroken =>
      rw [Sweep.fault_cons] at hfault
      cases hfault
      exact ⟨_, _, _, _, .broken hset hbroken, hbroken⟩

/-- Whoever is in a sweep afterwards was settled at its turn, or stands behind the place where the
sweep was broken off. -/
theorem SettlesAll.of_has (h : SettlesAll pairs events s)
    (hn : (sessionsOf (pairs.map Prod.fst)).Nodup) {b : Attempt} {why : Option Departure}
    (hb : s.Has b why) :
    (why = none ∧ (∃ fault, s.fault = some fault) ∧ (∃ status, (b, status) ∈ pairs) ∧
        callsOn b.session events = []) ∨
      ∃ a status own first, SettlesAt a status own first pairs events s ∧
        b = first.attempt ∧ why = first.departure := by
  induction h with
  | nil => cases why <;> simp [Sweep.Has] at hb
  | @cons c status rest xs ys first _ hset hnone hrest ih =>
      rw [List.map_cons, sessionsOf_cons, List.nodup_cons] at hn
      rcases Sweep.has_cons.mp hb with ⟨rfl, rfl⟩ | hb
      · exact .inr ⟨c, status, xs, first, .here hset hnone hrest, rfl, rfl⟩
      · rcases ih hn.2 hb with ⟨rfl, hfault, ⟨status', hmem⟩, hcalls⟩ |
          ⟨a, status', own, first', hat, rfl, rfl⟩
        · have hne := session_not_mem_singleton hn.1 (List.mem_map_of_mem hmem)
          refine .inl ⟨rfl, ?_, ⟨status', List.mem_cons_of_mem _ hmem⟩, ?_⟩
          · rwa [Sweep.fault_cons]
          · rw [callsOn_append, callsOn_eq_nil hset.lives.own hne, hcalls, List.append_nil]
        · exact .inr ⟨a, status', own, first', .behind hset hnone hat, rfl, rfl⟩
  | @broken c status rest xs first fault hset hfault =>
      rw [List.map_cons, sessionsOf_cons, List.nodup_cons] at hn
      rcases Sweep.has_cons.mp hb with ⟨rfl, rfl⟩ | hb
      · exact .inr ⟨c, status, xs, first, .broken hset hfault, rfl, rfl⟩
      · -- Behind the break nobody leaves, and nobody was called.
        match why with
        | some _ => simp [Sweep.Has, Sweep.broken] at hb
        | none =>
            obtain ⟨⟨a, status'⟩, hmem, rfl⟩ := List.mem_map.mp hb
            have hne := session_not_mem_singleton hn.1 (List.mem_map_of_mem hmem)
            refine .inl ⟨rfl, ⟨fault, ?_⟩, ⟨status', List.mem_cons_of_mem _ hmem⟩,
              callsOn_eq_nil hset.lives.own hne⟩
            rw [Sweep.fault_cons]
            rfl

theorem Sweep.sessions_cons {first : Settlement} :
    (sessionsOf ((Sweep.cons first s).kept ++ (Sweep.cons first s).gone.map (·.attempt))).Perm
      (first.attempt.session :: sessionsOf (s.kept ++ s.gone.map (·.attempt))) := by
  unfold Sweep.cons
  match first with
  | ⟨a, none, _⟩ => exact .refl _
  | ⟨a, some _, _⟩ =>
      rw [sessionsOf_append, sessionsOf_append]
      exact List.perm_middle

/-- Nobody is lost and nobody is doubled. -/
theorem SettlesAll.sessions (h : SettlesAll pairs events s) :
    (sessionsOf (s.kept ++ s.gone.map (·.attempt))).Perm (sessionsOf (pairs.map Prod.fst)) := by
  induction h with
  | nil => exact .refl _
  | cons hset _ _ ih =>
      rw [List.map_cons, sessionsOf_cons, ← hset.lives.course.session_eq]
      exact Sweep.sessions_cons.trans (ih.cons _)
  | @broken _ _ rest _ _ fault hset =>
      rw [List.map_cons, sessionsOf_cons, ← hset.lives.course.session_eq]
      refine Sweep.sessions_cons.trans ?_
      simp [Sweep.broken]

theorem Sweep.kept_cons_sublist {first : Settlement} {ss : List Session}
    (h : (sessionsOf s.kept).Sublist ss) :
    (sessionsOf (Sweep.cons first s).kept).Sublist (first.attempt.session :: ss) := by
  unfold Sweep.cons
  match first with
  | ⟨a, none, _⟩ => exact h.cons_cons _
  | ⟨a, some _, _⟩ => exact h.cons _

/-- Who stays keeps its place in the order. -/
theorem SettlesAll.order (h : SettlesAll pairs events s) :
    (sessionsOf s.kept).Sublist (sessionsOf (pairs.map Prod.fst)) := by
  induction h with
  | nil => exact .slnil
  | cons hset _ _ ih =>
      rw [List.map_cons, sessionsOf_cons, ← hset.lives.course.session_eq]
      exact Sweep.kept_cons_sublist ih
  | @broken _ _ rest _ _ fault hset =>
      rw [List.map_cons, sessionsOf_cons, ← hset.lives.course.session_eq]
      refine Sweep.kept_cons_sublist ?_
      simp [Sweep.broken]

end Lists

/-! ## A pool from the parts of its attempts -/

namespace Pool

/-- What happens to all attempts in flight at once, put together from the part of each.  A part
says of an attempt before and afterwards, and of the calls between, why it left, if it did. -/
structure Turn (part : Attempt → List Event → Attempt → Option Departure → Prop) (p : Pool)
    (events : List Event) (gone : List Departed) (q : Pool) : Prop where
  /-- The limits stay. -/
  limits : q.limits = p.limits
  /-- Who leaves comes behind those that have left before. -/
  departed : q.departed = p.departed ++ gone
  /-- The finished ones are counted. -/
  completed : q.completed = p.completed + gone.countP (·.why == .completed)
  /-- The abandoned ones are counted. -/
  abandoned : q.abandoned = p.abandoned + gone.countP (·.why == .abandoned)
  /-- Nobody is lost and nobody is doubled. -/
  sessions : (sessionsOf (q.inFlight ++ gone.map (·.attempt))).Perm (sessionsOf p.inFlight)
  /-- Who stays keeps its place in the order. -/
  order : (sessionsOf q.inFlight).Sublist (sessionsOf p.inFlight)
  /-- Nobody else is called. -/
  among : ∀ e ∈ events, e.Among (sessionsOf p.inFlight)
  /-- Who stays has done its part. -/
  stays : ∀ b ∈ q.inFlight, ∃ a ∈ p.inFlight, part a (callsOn b.session events) b none
  /-- Who leaves has done its part. -/
  leaves : ∀ x ∈ gone, ∃ a ∈ p.inFlight,
    part a (callsOn x.attempt.session events) x.attempt (some x.why)

theorem Turn.mono {part part' : Attempt → List Event → Attempt → Option Departure → Prop}
    {p q : Pool} {events : List Event} {gone : List Departed} (t : p.Turn part events gone q)
    (h : ∀ a calls b why, part a calls b why → part' a calls b why) :
    p.Turn part' events gone q := by
  refine { t with stays := ?_, leaves := ?_ }
  · intro b hb
    obtain ⟨a, ha, hpart⟩ := t.stays b hb
    exact ⟨a, ha, h _ _ _ _ hpart⟩
  · intro x hx
    obtain ⟨a, ha, hpart⟩ := t.leaves x hx
    exact ⟨a, ha, h _ _ _ _ hpart⟩

variable {p q : Pool} {events : List Event} {answer : Except Fault Nat}

/-- In a sweep with these events it comes to the turn of an attempt: it has a status, as everyone
in flight has, and the status is settled. -/
inductive Processes (p : Pool) (a : Attempt) (asked : List Event) (status : PolledStatus)
    (own : List Event) (first : Settlement) : List Event → Pool → Prop where
  /-- The two stages of the sweep, and what the attempt does in each. -/
  | mk {asking settling : List Event} {statuses : List PolledStatus} {s : Sweep} :
    AsksAll p.inFlight asking (statuses.map .ok) → a.Asks asked (.ok status) →
    callsOn a.session asking = callsOn a.session asked →
    SettlesAt a status own first (p.inFlight.zip statuses) settling s →
    Processes p a asked status own first
      (.told (.pass (min p.limits.statusChecks p.pollable)) :: (asking ++ settling ++
        [.told (.inFlight (p.applySweep s).inFlight.length)]))
      (p.applySweep s)

/-- The part of one attempt in a given sweep.  Only if the sweep is broken off may it not come to
the turn of an attempt. -/
inductive Visits (p : Pool) (events : List Event) (answer : Except Fault Nat) (q : Pool)
    (a : Attempt) : List Event → Attempt → Option Departure → Prop where
  /-- The attempt is asked and not settled. -/
  | asked {xs : List Event} {reply : Except Fault PolledStatus} {fault : Fault} :
    answer = .error fault → a.Asks xs reply →
    Visits p events answer q a (callsOn a.session xs) a none
  /-- It comes to the turn of the attempt. -/
  | settled {xs ys : List Event} {status : PolledStatus} {first : Settlement} :
    p.Processes a xs status ys first events q →
    (∀ fault, first.fault = some fault → answer = .error fault) →
    Visits p events answer q a (callsOn a.session xs ++ callsOn a.session ys) first.attempt
      first.departure

section Processes

variable {a b : Attempt} {asked own : List Event} {status : PolledStatus} {first : Settlement}

theorem Processes.asks (h : p.Processes a asked status own first events q) :
    a.Asks asked (.ok status) := by
  cases h
  assumption

theorem Processes.settles (h : p.Processes a asked status own first events q) :
    a.Settles status own first := by
  obtain ⟨-, -, -, hat⟩ := h
  exact hat.settles

theorem Processes.mem (h : p.Processes a asked status own first events q) : a ∈ p.inFlight := by
  obtain ⟨-, -, -, hat⟩ := h
  exact (List.of_mem_zip hat.mem).1

/-- The calls of the attempt in the sweep are its query and those of its settlement. -/
theorem Processes.calls_eq (h : p.Processes a asked status own first events q)
    (hn : (sessionsOf p.inFlight).Nodup) :
    callsOn a.session events = callsOn a.session asked ++ callsOn a.session own := by
  obtain ⟨hask, -, hasked, hat⟩ := h
  rename_i statuses _
  have hfst : (p.inFlight.zip statuses).map Prod.fst = p.inFlight :=
    List.map_fst_zip (by rw [hask.length_eq, List.length_map])
  simp only [callsOn_cons, callsOn_append, callsOn_nil, Event.callOn?_told, reduceCtorEq, if_false,
    List.append_nil, hasked, hat.calls_eq (hfst.symm ▸ hn)]

/-- An attempt that leaves at its turn has left for the reason of its settlement. -/
theorem Processes.departed (h : p.Processes a asked status own first events q) {why : Departure}
    (hwhy : first.departure = some why) : ⟨why, first.attempt⟩ ∈ q.departed := by
  obtain ⟨-, -, -, hat⟩ := h
  have hhas := hat.has
  rw [hwhy] at hhas
  exact List.mem_append_right _ hhas

theorem Visits.passes {answer : Except Fault Nat} {calls : List Event} {why : Option Departure}
    (h : p.Visits events answer q a calls b why) : a.Passes calls b why := by
  cases h with
  | asked _ hask => exact .asked hask
  | settled hat => exact .settled hat.asks hat.settles

/-- If a sweep goes through, it comes to the turn of everyone. -/
theorem Visits.of_ok {removed : Nat} {calls : List Event} {why : Option Departure}
    (h : p.Visits events (.ok removed) q a calls b why) :
    ∃ xs status ys first, p.Processes a xs status ys first events q ∧ first.fault = none ∧
      calls = callsOn a.session xs ++ callsOn a.session ys ∧ b = first.attempt ∧
      why = first.departure := by
  cases h with
  | asked herror => cases herror
  | @settled xs ys status first hat hfault =>
      refine ⟨xs, status, ys, first, hat, ?_, rfl, rfl, rfl⟩
      refine Option.eq_none_iff_forall_ne_some.mpr fun fault hsome => ?_
      cases hfault fault hsome

/-- Whoever leaves in a sweep leaves at its turn. -/
theorem Visits.of_some {calls : List Event} {why : Departure}
    (h : p.Visits events answer q a calls b (some why)) :
    ∃ xs status ys first, p.Processes a xs status ys first events q ∧ b = first.attempt ∧
      first.departure = some why := by
  generalize hwhy : some why = departure at h
  cases h with
  | asked => cases hwhy
  | settled hat => exact ⟨_, _, _, _, hat, rfl, rfl⟩

end Processes

/-- The part of one attempt in a sweep that settles. -/
theorem visits_of_has {asking settling : List Event} {statuses : List PolledStatus} {s : Sweep}
    (hask : AsksAll p.inFlight asking (statuses.map .ok))
    (hset : SettlesAll (p.inFlight.zip statuses) settling s)
    (hn : (sessionsOf p.inFlight).Nodup) {b : Attempt} {why : Option Departure}
    (hb : s.Has b why) :
    ∃ a ∈ p.inFlight,
      p.Visits
        (.told (.pass (min p.limits.statusChecks p.pollable)) :: (asking ++ settling ++
          [.told (.inFlight (p.applySweep s).inFlight.length)]))
        s.answer (p.applySweep s) a
        (callsOn b.session asking ++ callsOn b.session settling) b why := by
  have hfst : (p.inFlight.zip statuses).map Prod.fst = p.inFlight :=
    List.map_fst_zip (by rw [hask.length_eq, List.length_map])
  rcases hset.of_has (hfst.symm ▸ hn) hb with ⟨rfl, ⟨fault, hfault⟩, ⟨status, hmem⟩, hcalls⟩ |
      ⟨a, status, own, first, hat, rfl, rfl⟩
  · obtain ⟨xs, hxs, hasking⟩ := hask.of_mem_zip_statuses hn hmem
    refine ⟨b, (List.of_mem_zip hmem).1, ?_⟩
    rw [hcalls, List.append_nil, hasking]
    exact .asked (Sweep.answer_of_fault hfault) hxs
  · obtain ⟨xs, hxs, hasking⟩ := hask.of_mem_zip_statuses hn hat.mem
    refine ⟨a, (List.of_mem_zip hat.mem).1, ?_⟩
    rw [hat.settles.lives.course.session_eq, hasking, hat.calls_eq (hfst.symm ▸ hn)]
    exact .settled (.mk hask hxs hasking hat) fun fault hsome =>
      Sweep.answer_of_fault (hat.fault_eq hsome)

/-- A sweep calls only sessions in flight, and whoever is in flight afterwards was so before. -/
theorem Sweeps.among (h : p.Sweeps events answer q) :
    (∀ e ∈ events, e.Among (sessionsOf p.inFlight)) ∧
      (sessionsOf q.inFlight).Sublist (sessionsOf p.inFlight) := by
  cases h with
  | refused hask =>
      refine ⟨?_, .refl _⟩
      intro e he
      rcases List.mem_cons.mp he with rfl | he
      · exact trivial
      · exact hask.among e he
  | @settled asking settling statuses s hask hset =>
      have hlen : p.inFlight.length = statuses.length := by
        rw [hask.length_eq, List.length_map]
      have horder := hset.order
      have hamong := hset.among
      rw [List.map_fst_zip hlen.le] at horder hamong
      refine ⟨?_, horder⟩
      intro e he
      simp only [List.mem_cons, List.mem_append, List.not_mem_nil, or_false] at he
      rcases he with rfl | (he | he) | rfl
      · exact trivial
      · exact hask.among e he
      · exact hamong e he
      · exact trivial

/-- **Every sweep is made of the parts of its attempts**, also if it is broken off. -/
theorem Sweeps.visits (h : p.Sweeps events answer q) (hn : (sessionsOf p.inFlight).Nodup) :
    ∃ gone, p.Turn (p.Visits events answer q) events gone q := by
  obtain ⟨hamong, horder⟩ := h.among
  cases h with
  | @refused asking answers fault hask hc =>
      refine ⟨[], rfl, by simp, by simp, by simp, by simp, horder, hamong, ?_, by simp⟩
      -- Everyone was asked and stays, whatever the answer was.
      intro b hb
      obtain ⟨i, hi, rfl⟩ := List.getElem_of_mem hb
      have hi' : i < answers.length := hask.length_eq ▸ hi
      have hmem : (p.inFlight[i], answers[i]) ∈ p.inFlight.zip answers := by
        rw [← List.getElem_zip (h := by simp; omega)]
        exact List.getElem_mem _
      obtain ⟨own, hown, hcalls⟩ := hask.of_mem_zip hn hmem
      refine ⟨_, hb, ?_⟩
      simp only [callsOn_cons, Event.callOn?_told, reduceCtorEq, if_false, hcalls]
      exact .asked rfl hown
  | @settled asking settling statuses s hask hset =>
      have hlen : p.inFlight.length = statuses.length := by
        rw [hask.length_eq, List.length_map]
      have hsessions := hset.sessions
      rw [List.map_fst_zip hlen.le] at hsessions
      refine ⟨s.gone, rfl, rfl, rfl, rfl, hsessions, horder, hamong, ?_, ?_⟩
      · intro b hb
        have hhas : s.Has b none := hb
        simpa using visits_of_has hask hset hn hhas
      · intro x hx
        have hhas : s.Has x.attempt (some x.why) := hx
        simpa using visits_of_has hask hset hn hhas

theorem Sweeps.turn (h : p.Sweeps events answer q) (hn : (sessionsOf p.inFlight).Nodup) :
    ∃ gone, p.Turn Attempt.Passes events gone q := by
  obtain ⟨gone, t⟩ := h.visits hn
  exact ⟨gone, t.mono fun _ _ _ _ => Visits.passes⟩

/-- **If a sweep ends with a fault, one attempt is to blame**: it has no status, or its turn had
come and settling its status ended with the fault. -/
theorem Sweeps.blame {fault : Fault} (h : p.Sweeps events (.error fault) q)
    (hn : (sessionsOf p.inFlight).Nodup) :
    (∃ a ∈ p.inFlight, ∃ xs, a.Asks xs (.error fault) ∧
        callsOn a.session events = callsOn a.session xs) ∨
      ∃ a xs status ys first, p.Processes a xs status ys first events q ∧
        first.fault = some fault := by
  generalize hanswer : (.error fault : Except Fault Nat) = answer at h
  cases h with
  | @refused asking answers fault' hask hc =>
      cases hanswer
      obtain ⟨a, hmem⟩ := hask.of_collect_error hc
      obtain ⟨own, hown, hcalls⟩ := hask.of_mem_zip hn hmem
      refine .inl ⟨a, (List.of_mem_zip hmem).1, own, hown, ?_⟩
      simpa using hcalls
  | @settled asking settling statuses s hask hset =>
      have hfault : s.fault = some fault := Sweep.fault_of_answer hanswer.symm
      obtain ⟨a, status, own, first, hat, hfirst⟩ := hset.of_fault hfault
      obtain ⟨xs, hxs, hasking⟩ := hask.of_mem_zip_statuses hn hat.mem
      exact .inr ⟨a, xs, status, own, first, .mk hask hxs hasking hat, hfirst⟩

end Pool

end LoadDispatch
