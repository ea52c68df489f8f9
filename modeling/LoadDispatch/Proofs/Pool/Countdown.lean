import LoadDispatch.Proofs.Pool.Capacity

/-!
# Waits that end

A wait sweeps until somebody leaves, and nothing in it bounds how often.  It ends if something
counts down: a number that every sweep makes smaller, and that is zero only with nothing in flight.

`Countdown A J bound I` is what has to be known of such a number.  `A` is what is assumed of the
events of a run, such as how the services answer; `I n events p` says that a pool is `n` sweeps away
from being empty at most.  A session that is opened for a job sets the number back to `bound`; `J`
says which jobs are expected on which sessions.

From a countdown it follows that waits, drains and admissions return if they have patience for
`bound` passes (`Waits.returns`, `Drains.returns`, `Admits.returns`).  What it is that counts down,
and why, is not decided here.
-/

namespace LoadDispatch

/-- A sweep begins. -/
def Event.isPass : Event → Bool
  | .told (.pass _) => true
  | _ => false

/-- How many sweeps there were. -/
def sweepsIn (events : List Event) : Nat :=
  events.countP Event.isPass

section SweepsIn

variable {e : Event} {xs ys : List Event}

@[simp] theorem sweepsIn_nil : sweepsIn [] = 0 := rfl

@[simp] theorem sweepsIn_append : sweepsIn (xs ++ ys) = sweepsIn xs + sweepsIn ys :=
  List.countP_append

@[simp] theorem sweepsIn_cons : sweepsIn (e :: xs) = sweepsIn xs + if e.isPass then 1 else 0 :=
  List.countP_cons

/-- What attempts do by themselves is no sweep. -/
theorem sweepsIn_eq_zero (h : ∀ e ∈ xs, e.Plain) : sweepsIn xs = 0 := by
  refine List.countP_eq_zero.mpr fun e he => ?_
  have hplain := h e he
  cases e with
  | told notice =>
      cases notice with
      | pass => exact hplain.elim
      | _ => exact Bool.false_ne_true
  | _ => exact Bool.false_ne_true

end SweepsIn

namespace Pool

/-- A number that counts the sweeps down until nothing is in flight. -/
structure Countdown (A : List Event → Prop) (J : Session → JobConfig → Prop) (bound : Nat)
    (I : Nat → List Event → Pool → Prop) : Prop where
  /-- What is assumed of a run is assumed of each beginning of it. -/
  left : ∀ {xs ys : List Event}, A (xs ++ ys) → A xs
  /-- Who is so many sweeps away is no more away. -/
  mono : ∀ {n n' : Nat} {xs : List Event} {p : Pool}, n ≤ n' → I n xs p → I n' xs p
  /-- At zero nothing is in flight. -/
  empty : ∀ {xs : List Event} {p : Pool}, I 0 xs p → p.inFlight = []
  /-- Something that has nothing to do with sessions makes no difference. -/
  idle : ∀ {n : Nat} {xs : List Event} {p : Pool} {e : Event}, I n xs p → e.callOn? = none →
    e.opened? = none → I n (xs ++ [e]) p
  /-- A sweep goes through and counts down. -/
  sweep : ∀ {n : Nat} {xs ys : List Event} {p q : Pool} {answer : Except Fault Nat},
    I (n + 1) xs p → A (xs ++ ys) → p.Sweeps ys answer q →
    ∃ removed, answer = .ok removed ∧ I n (xs ++ ys) q
  /-- A job is placed, and the count begins again. -/
  place : ∀ {xs ys : List Event} {p q : Pool} {session : Session} {opening : Except Fault Unit}
    {config : JobConfig} {answer : Except Fault Attempt},
    I bound xs p → A (xs ++ .opened session opening :: ys) → J session config →
    Places config p (.opened session opening :: ys) answer q →
    ∃ a, answer = .ok a ∧ I bound (xs ++ .opened session opening :: ys) q

section Waiting

variable {A : List Event → Prop} {J : Session → JobConfig → Prop} {bound n passes : Nat}
  {I : Nat → List Event → Pool → Prop} {p q : Pool} {xs ys : List Event}

theorem Sweeps.sweepsIn_eq {answer : Except Fault Nat} (h : p.Sweeps ys answer q) :
    sweepsIn ys = 1 := by
  cases h with
  | refused hask => simp [sweepsIn_eq_zero hask.plain, Event.isPass]
  | settled hask hset =>
      simp [sweepsIn_eq_zero hask.plain, sweepsIn_eq_zero hset.plain, Event.isPass]

/-- **A wait returns** within the sweeps that are left, and leaves as many fewer. -/
theorem Waits.returns (c : Countdown A J bound I) {outcome : Outcome Nat}
    (h : Waits passes p ys outcome q) (hI : I n xs p) (hA : A (xs ++ ys))
    (hne : p.inFlight ≠ []) (hn : n ≤ passes) :
    ∃ removed m, outcome = .returned removed ∧ m + sweepsIn ys ≤ n ∧ I m (xs ++ ys) q := by
  induction h generalizing n xs with
  | tired p =>
      obtain rfl := Nat.le_zero.mp hn
      exact absurd (c.empty hI) hne
  | broken hsweep =>
      cases n with
      | zero => exact absurd (c.empty hI) hne
      | succ n =>
          obtain ⟨removed, heq, -⟩ := c.sweep hI hA hsweep
          cases heq
  | @freed _ removed _ _ _ hsweep =>
      cases n with
      | zero => exact absurd (c.empty hI) hne
      | succ n =>
          obtain ⟨_, -, hI'⟩ := c.sweep hI hA hsweep
          exact ⟨removed + 1, n, rfl, by rw [hsweep.sweepsIn_eq], hI'⟩
  | @again passes p q r xs' ys' outcome hsweep _ ih =>
      cases n with
      | zero => exact absurd (c.empty hI) hne
      | succ n =>
          -- Nobody has left, so somebody is still in flight behind the pause.
          have hlen : q.inFlight.length = p.inFlight.length := hsweep.length_add
          have hne' : q.inFlight ≠ [] :=
            List.ne_nil_of_length_pos (hlen ▸ List.length_pos_iff.mpr hne)
          rw [← List.append_assoc] at hA ⊢
          obtain ⟨_, -, hI'⟩ := c.sweep hI (c.left hA) hsweep
          rw [List.append_cons] at hA
          obtain ⟨removed, m, rfl, hm, hI''⟩ :=
            ih (c.idle hI' rfl rfl) hA hne' (Nat.le_of_succ_le_succ hn)
          refine ⟨removed, m, rfl, ?_, ?_⟩
          · simp only [sweepsIn_append, sweepsIn_cons, hsweep.sweepsIn_eq, Event.isPass,
              Bool.false_eq_true, if_false]
            omega
          · rw [List.append_cons]
            exact hI''

theorem WaitsForSlot.returns (c : Countdown A J bound I) {outcome : Outcome Nat}
    (h : WaitsForSlot passes p ys outcome q) (hI : I n xs p) (hA : A (xs ++ ys))
    (hne : p.inFlight ≠ []) (hn : n ≤ passes) :
    ∃ removed m, outcome = .returned removed ∧ m + sweepsIn ys ≤ n ∧ I m (xs ++ ys) q := by
  cases h with
  | idle hnil => exact absurd hnil hne
  | waits _ hwaits => exact hwaits.returns c hI hA hne hn

/-- **A drain returns**, within the sweeps that are left: each of its waits takes somebody out, and
they all count the same number down. -/
theorem Drains.returns (c : Countdown A J bound I) {waits : Nat} {outcome : Outcome Unit}
    (h : Drains passes waits p ys outcome q) (hI : I n xs p) (hA : A (xs ++ ys))
    (hwaits : p.inFlight.length ≤ waits) (hn : n ≤ passes) :
    outcome = .returned () ∧ sweepsIn ys ≤ n ∧ I n (xs ++ ys) q := by
  induction h generalizing n xs with
  | done => exact ⟨rfl, Nat.zero_le n, by simpa using hI⟩
  | tired hne => exact absurd (List.length_eq_zero_iff.mp (Nat.le_zero.mp hwaits)) hne
  | waited hne hwait _ ih =>
      rw [← List.append_assoc] at hA ⊢
      obtain ⟨_, m, -, hm, hI'⟩ := hwait.returns c hI (c.left hA) hne hn
      have hlt := hwait.length_lt
      obtain ⟨rfl, hsweeps, hI''⟩ := ih hI' hA (by omega) (by omega)
      refine ⟨rfl, ?_, c.mono (by omega) hI''⟩
      rw [sweepsIn_append]
      omega
  | broken hne hwait | unfinished hne hwait =>
      obtain ⟨_, _, heq, -⟩ := hwait.returns c hI hA hne hn
      cases heq

/-- A job is placed by opening a session, and nothing else is opened. -/
theorem Places.exists_opened {config : JobConfig} {answer : Except Fault Attempt}
    (h : Places config p ys answer q) :
    ∃ session opening more, ys = .opened session opening :: more ∧ askedIn more = [] := by
  have hquiet : ∀ {more : List Event}, (∀ e ∈ more, e.Plain) → askedIn more = [] := fun hplain =>
    List.filterMap_eq_nil_iff.mpr fun e he => (hplain e he).asked?_eq_none
  cases h with
  | refused => exact ⟨_, _, _, rfl, rfl⟩
  | admitted hsub =>
      refine ⟨_, _, _, rfl, ?_⟩
      show askedIn (_ ++ _) = []
      rw [askedIn_append, hquiet hsub.plain]
      rfl
  | @failed _ events _ _ hsub =>
      refine ⟨_, _, _, rfl, ?_⟩
      show askedIn events = []
      exact hquiet hsub.plain

/-- A job that is expected on the session that is opened for it is placed. -/
theorem Places.returns (c : Countdown A J bound I) {config : JobConfig}
    {answer : Except Fault Attempt} (h : Places config p ys answer q) (hI : I bound xs p)
    (hA : A (xs ++ ys))
    (hJ : ∀ session, (askedIn ys).head? = some session → J session config) :
    (∃ a, answer = .ok a) ∧ I bound (xs ++ ys) q ∧ (askedIn ys).length = 1 := by
  obtain ⟨session, opening, more, rfl, hmore⟩ := h.exists_opened
  have hasked : askedIn (.opened session opening :: more) = [session] := by
    show session :: askedIn more = _
    rw [hmore]
  rw [hasked] at hJ ⊢
  obtain ⟨a, rfl, hI'⟩ := c.place hI hA (hJ session rfl) h
  exact ⟨⟨a, rfl⟩, hI', rfl⟩

/-- **An admission returns**, if its job is expected on the session that is opened for it. -/
theorem Admits.returns (c : Countdown A J bound I) {config : JobConfig}
    {outcome : Outcome Attempt} (h : Admits passes config p ys outcome q) (hI : I bound xs p)
    (hA : A (xs ++ ys)) (hbound : bound ≤ passes)
    (hJ : ∀ session, (askedIn ys).head? = some session → J session config) :
    (∃ a, outcome = .returned a) ∧ I bound (xs ++ ys) q ∧ (askedIn ys).length = 1 := by
  cases h with
  | atOnce _ hplace =>
      obtain ⟨⟨a, rfl⟩, hrest⟩ := hplace.returns c hI hA hJ
      exact ⟨⟨a, rfl⟩, hrest⟩
  | @waited zs _ _ _ _ _ hf hwait hplace =>
      rw [← List.append_assoc] at hA ⊢
      obtain ⟨_, m, -, hm, hI'⟩ :=
        hwait.returns c hI (c.left hA) (inFlight_ne_nil_of_full hf) hbound
      have hnone : askedIn zs = [] :=
        List.filterMap_eq_nil_iff.mpr hwait.shrinks.asked
      rw [askedIn_append, hnone, List.nil_append] at hJ ⊢
      obtain ⟨⟨a, rfl⟩, hrest⟩ := hplace.returns c (c.mono (by omega) hI') hA hJ
      exact ⟨⟨a, rfl⟩, hrest⟩
  | broken hf hwait | unfinished hf hwait =>
      obtain ⟨_, _, heq, -⟩ := hwait.returns c hI hA (inFlight_ne_nil_of_full hf) hbound
      cases heq

end Waiting

end Pool

end LoadDispatch
