import LoadDispatch.Pool.Checks
import LoadDispatch.Proofs.Pool.Settling

/-!
# A pass with its queries side by side

`Pool.sweep` asks about one attempt after the other.  `Checks.StepAt` has the queries overlap, and
this module puts the rest of a pass around it: a `PassState` is checking, or settling, or over, and
a `PassStep` leads from one to the next.  Attempts are told apart by their places in the list, so it
does not matter what their sessions are.

* While a pass is checking, queries begin as there are permits and end in any order (`Checking`).
* It leaves that stage once all checks have ended, with the answers in the order of the attempts
  (`Gathered`), and then it settles them in this order (`Reached`).
-/

namespace LoadDispatch

/-! ## The steps of a pass -/

/-- A sweep behind another one. -/
def Sweep.append (front s : Sweep) : Sweep :=
  { kept := front.kept ++ s.kept, gone := front.gone ++ s.gone, fault := s.fault }

/-- What is seen of a pass from outside. -/
inductive PassEvent where
  /-- The service is asked about the attempt at a place. -/
  | asked (place : Nat) (job : Int)
  /-- The service has answered for the attempt at a place. -/
  | answered (place : Nat) (reply : Except Fault PolledStatus)
  /-- The attempt at a place is being settled. -/
  | settled (place : Nat) (e : Event)

/-- What a sign shows, given the place of the check that it is of. -/
def PassEvent.ofSign (place : Nat) : CheckSign → PassEvent
  | .asked job => .asked place job
  | .answered reply => .answered place reply

/-- How far a pass is. -/
inductive PassState where
  /-- The attempts are being asked. -/
  | checking (checks : List StatusCheck)
  /-- Those in front of a place are settled, and each of the others has a status. -/
  | settling (front : Sweep) (place : Nat) (rest : List (Attempt × PolledStatus))
  /-- It has ended. -/
  | over (answer : Except Fault Nat) (pool : Pool)

/-- One step of a pass over the attempts in flight. -/
inductive PassStep (p : Pool) : PassState → List PassEvent → PassState → Prop where
  /-- The check of the attempt at a place makes a step. -/
  | check {a : Attempt} {place : Nat} {checks last : List StatusCheck} {signs : List CheckSign} :
    Checks.StepAt p.limits.statusChecks a place checks signs last →
    PassStep p (.checking checks) (signs.map (.ofSign place)) (.checking last)
  /-- All checks have ended and one of them has failed. -/
  | refuse {checks : List StatusCheck} {answers : List (Except Fault PolledStatus)}
      {fault : Fault} : Checks.answers? checks = some answers → collect answers = .error fault →
    PassStep p (.checking checks) [] (.over (.error fault) p)
  /-- All checks have ended and everyone has a status. -/
  | goOn {checks : List StatusCheck} {answers : List (Except Fault PolledStatus)}
      {statuses : List PolledStatus} : Checks.answers? checks = some answers →
    collect answers = .ok statuses →
    PassStep p (.checking checks) [] (.settling {} 0 (p.inFlight.zip statuses))
  /-- The next attempt is settled. -/
  | settle {front : Sweep} {place : Nat} {a : Attempt} {status : PolledStatus}
      {rest : List (Attempt × PolledStatus)} {events : List Event} {first : Settlement} :
    a.Settles status events first → first.fault = none →
    PassStep p (.settling front place ((a, status) :: rest)) (events.map (.settled place))
      (.settling (front.append (.cons first {})) (place + 1) rest)
  /-- A fault breaks settling off. -/
  | breakOff {front : Sweep} {place : Nat} {a : Attempt} {status : PolledStatus}
      {rest : List (Attempt × PolledStatus)} {events : List Event} {first : Settlement}
      {fault : Fault} :
    a.Settles status events first → first.fault = some fault →
    PassStep p (.settling front place ((a, status) :: rest)) (events.map (.settled place))
      (.over (.error fault)
        (p.applySweep (front.append (.cons first (.broken (rest.map Prod.fst) fault)))))
  /-- Everyone is settled. -/
  | finish {front : Sweep} {place : Nat} :
    PassStep p (.settling front place []) [] (.over (.ok front.gone.length) (p.applySweep front))

/-- A run of a pass, from its beginning to some state. -/
abbrev PassRun (p : Pool) : List PassEvent → PassState → Prop :=
  Steps (PassStep p) (.checking (Checks.initial p.inFlight))

/-! ## What is seen of the queries -/

namespace PassEvent

/-- The place that is asked about, at the beginning of a query and at its end. -/
def query? : PassEvent → Option Nat
  | asked place _ => some place
  | answered place _ => some place
  | settled .. => none

/-- A query begins. -/
def isAsked : PassEvent → Bool
  | asked .. => true
  | _ => false

/-- A query ends. -/
def isAnswered : PassEvent → Bool
  | answered .. => true
  | _ => false

/-- What settling has done, by the place of the attempt. -/
def settled? : PassEvent → Option (Nat × Event)
  | settled place e => some (place, e)
  | _ => none

end PassEvent

/-- The queries about the attempt at a place. -/
def queriesAt (place : Nat) (seen : List PassEvent) : List PassEvent :=
  seen.filter (·.query? = some place)

@[simp] theorem queriesAt_append (place : Nat) (xs ys : List PassEvent) :
    queriesAt place (xs ++ ys) = queriesAt place xs ++ queriesAt place ys :=
  List.filter_append ..

theorem queriesAt_eq_self {place : Nat} {xs : List PassEvent}
    (h : ∀ e ∈ xs, e.query? = some place) : queriesAt place xs = xs :=
  List.filter_eq_self.mpr fun e he => by simp [h e he]

theorem queriesAt_eq_nil {place i : Nat} {xs : List PassEvent}
    (h : ∀ e ∈ xs, e.query? = some place) (hi : i ≠ place) : queriesAt i xs = [] :=
  List.filter_eq_nil_iff.mpr fun e he => by simpa [h e he] using hi.symm

/-- The queries in progress. -/
def PassState.inProgress : PassState → Nat
  | .checking checks => Checks.inProgress checks
  | _ => 0

/-- Whether the attempts are being asked. -/
def PassState.isChecking : PassState → Bool
  | .checking _ => true
  | _ => false

theorem inProgress_eq_zero_of_not_checking {state : PassState}
    (h : state.isChecking = false) : state.inProgress = 0 := by
  cases state with
  | checking => cases h
  | _ => rfl

/-- How the check of the attempt at a place has gone, with the queries for it. -/
inductive Attempt.Checked (a : Attempt) (place : Nat) :
    List PassEvent → Except Fault PolledStatus → Prop where
  /-- The job has a number, and the service was asked about it once. -/
  | asked {job : Int} (reply : Except Fault PolledStatus) : a.released = false →
    a.jobId = some job →
    Checked a place [.asked place job, .answered place reply] (absorb reply)
  /-- The job has no number and counts as failed. -/
  | failed : a.released = false → a.jobId = none → Checked a place [] (.ok (.known .failed))
  /-- The attempt is released and refuses. -/
  | refused : a.released = true → Checked a place [] (.error (.attemptReleased a.config.path))

theorem Attempt.checked_of_unasked {a : Attempt} (h : a.asksFor = none) (place : Nat) :
    a.Checked place [] a.statusUnasked := by
  unfold asksFor at h
  unfold statusUnasked
  cases hreleased : a.released with
  | true => exact .refused hreleased
  | false =>
      rw [hreleased] at h
      exact .failed hreleased h

/-- What the queries at a place say of a check. -/
def StatusCheck.ShownBy (c : StatusCheck) (place : Nat) (queries : List PassEvent) : Prop :=
  match c.state with
  | .waiting => queries = []
  | .asking => ∃ job, c.attempt.asksFor = some job ∧ queries = [.asked place job]
  | .ended answer => c.attempt.Checked place queries answer

/-- Everything there is to know of a pass that is checking. -/
structure Checking (p : Pool) (seen : List PassEvent) (checks : List StatusCheck) : Prop where
  /-- There is a check for each attempt, in order. -/
  attempts : checks.map (·.attempt) = p.inFlight
  /-- There is a permit for each query in progress. -/
  room : Checks.inProgress checks ≤ p.limits.statusChecks
  /-- How far a check is shows in the queries at its place. -/
  shown : ∀ i, ∀ c : StatusCheck, checks[i]? = some c → c.ShownBy i (queriesAt i seen)
  /-- There are no queries elsewhere. -/
  others : ∀ i, p.inFlight.length ≤ i → queriesAt i seen = []
  /-- The queries in progress are those that have begun and not ended. -/
  balance : seen.countP (·.isAsked) = seen.countP (·.isAnswered) + Checks.inProgress checks
  /-- Nobody has been settled. -/
  unsettled : ∀ e ∈ seen, e.settled? = none

section Checking

variable {p : Pool} {seen more : List PassEvent} {checks last before behind : List StatusCheck}

/-- Putting another check at a place leaves the others as they are. -/
theorem getElem?_middle {α : Type} {before behind : List α} {x y : α} {i : Nat}
    (h : (before ++ x :: behind)[i]? = some y) :
    (i = before.length ∧ y = x) ∨
      (i ≠ before.length ∧ ∀ z, (before ++ z :: behind)[i]? = some y) := by
  obtain hlt | rfl | hgt := lt_trichotomy i before.length
  · rw [List.getElem?_append_left hlt] at h
    exact .inr ⟨hlt.ne, fun z => by rw [List.getElem?_append_left hlt, h]⟩
  · rw [List.getElem?_append_right le_rfl, Nat.sub_self, List.getElem?_cons_zero] at h
    exact .inl ⟨rfl, (Option.some.inj h).symm⟩
  · obtain ⟨k, rfl⟩ := Nat.exists_eq_add_of_lt hgt
    have hk : before.length + k + 1 - before.length = k + 1 := by omega
    rw [List.getElem?_append_right hgt.le, hk, List.getElem?_cons_succ] at h
    refine .inr ⟨hgt.ne', fun z => ?_⟩
    rw [List.getElem?_append_right hgt.le, hk, List.getElem?_cons_succ, h]

theorem inProgress_initial (as : List Attempt) : Checks.inProgress (Checks.initial as) = 0 := by
  refine List.countP_eq_zero.mpr fun c hc => ?_
  obtain ⟨a, -, rfl⟩ := List.mem_map.mp hc
  exact Bool.false_ne_true

/-- Only the check at a place tells how many queries are in progress. -/
theorem inProgress_middle (before behind : List StatusCheck) (c : StatusCheck) :
    Checks.inProgress (before ++ c :: behind) =
      Checks.inProgress before + Checks.inProgress behind + if c.isAsking then 1 else 0 := by
  rw [Checks.inProgress_append, Checks.inProgress_cons, Nat.add_assoc]

theorem Checking.initial (p : Pool) : Checking p [] (Checks.initial p.inFlight) where
  attempts := by
    rw [Checks.initial, List.map_map]
    exact List.map_id _
  room := by rw [inProgress_initial]; exact Nat.zero_le _
  shown := by
    intro i c hc
    rw [Checks.initial, List.getElem?_map, Option.map_eq_some_iff] at hc
    obtain ⟨a, -, rfl⟩ := hc
    rfl
  others := fun _ _ => rfl
  balance := by rw [inProgress_initial]; rfl
  unsettled := by simp

/-- A step at one place. -/
theorem Checking.step {a : Attempt} {state state' : CheckState} {xs : List PassEvent}
    (h : Checking p seen (before ++ ⟨a, state⟩ :: behind))
    (hroom : Checks.inProgress (before ++ ⟨a, state'⟩ :: behind) ≤ p.limits.statusChecks)
    (hplace : ∀ e ∈ xs, e.query? = some before.length)
    (hshown : StatusCheck.ShownBy ⟨a, state'⟩ before.length (queriesAt before.length seen ++ xs))
    (hbalance : xs.countP (·.isAsked) + Checks.inProgress (before ++ ⟨a, state⟩ :: behind) =
      xs.countP (·.isAnswered) + Checks.inProgress (before ++ ⟨a, state'⟩ :: behind)) :
    Checking p (seen ++ xs) (before ++ ⟨a, state'⟩ :: behind) where
  attempts := by rw [← h.attempts]; simp
  room := hroom
  shown := by
    intro i c hc
    obtain ⟨rfl, rfl⟩ | ⟨hi, hc⟩ := getElem?_middle hc
    · rw [queriesAt_append, queriesAt_eq_self hplace]
      exact hshown
    · rw [queriesAt_append, queriesAt_eq_nil hplace hi, List.append_nil]
      exact h.shown i c (hc _)
  others := by
    intro i hi
    have hlength : before.length < p.inFlight.length := by
      rw [← h.attempts, List.length_map, List.length_append, List.length_cons]
      omega
    rw [queriesAt_append, h.others i hi, queriesAt_eq_nil hplace (by omega), List.append_nil]
  balance := by
    rw [List.countP_append, List.countP_append, h.balance]
    omega
  unsettled := by
    refine List.forall_mem_append.mpr ⟨h.unsettled, fun e he => ?_⟩
    cases e with
    | settled => cases hplace _ he
    | asked | answered => rfl

theorem Checking.passStep {a : Attempt} {place : Nat} {signs : List CheckSign}
    (h : Checking p seen checks)
    (hstep : Checks.StepAt p.limits.statusChecks a place checks signs last) :
    Checking p (seen ++ signs.map (.ofSign place)) last := by
  obtain @⟨before, behind, state, next, signs, hstep⟩ := hstep
  have hshown : StatusCheck.ShownBy ⟨a, state⟩ before.length (queriesAt before.length seen) :=
    h.shown _ _ (by simp)
  have hplace : ∀ e ∈ signs.map (PassEvent.ofSign before.length),
      e.query? = some before.length := by
    refine List.forall_mem_map.mpr fun sign _ => ?_
    cases sign with
    | asked | answered => rfl
  cases hstep with
  | skip hnone hroom =>
      have hwaiting : queriesAt before.length seen = [] := hshown
      refine h.step ?_ hplace ?_ ?_
      · rw [inProgress_middle] at hroom ⊢
        exact hroom.le
      · rw [hwaiting]
        exact Attempt.checked_of_unasked hnone _
      · rw [inProgress_middle, inProgress_middle]
        rfl
  | @ask job hsome hroom =>
      have hwaiting : queriesAt before.length seen = [] := hshown
      refine h.step ?_ hplace ?_ ?_
      · rw [inProgress_middle] at hroom ⊢
        exact hroom
      · rw [hwaiting]
        exact ⟨job, hsome, rfl⟩
      · rw [inProgress_middle, inProgress_middle]
        simp [PassEvent.ofSign, PassEvent.isAsked, PassEvent.isAnswered, StatusCheck.isAsking,
          Nat.add_comm]
  | answer reply =>
      obtain ⟨job, hsome, hasking⟩ := hshown
      obtain ⟨hreleased, hjob⟩ := Attempt.asksFor_eq_some hsome
      refine h.step ?_ hplace ?_ ?_
      · have hroom := h.room
        rw [inProgress_middle] at hroom ⊢
        exact (Nat.le_add_right _ 1).trans hroom
      · rw [hasking]
        exact .asked reply hreleased hjob
      · rw [inProgress_middle, inProgress_middle]
        simp [PassEvent.ofSign, PassEvent.isAsked, PassEvent.isAnswered, StatusCheck.isAsking,
          Nat.add_comm]

end Checking

/-! ## When all checks have ended -/

/-- Everything there is to know of a pass once all checks have ended. -/
structure Gathered (p : Pool) (seen : List PassEvent)
    (answers : List (Except Fault PolledStatus)) : Prop where
  /-- There is an answer for each attempt. -/
  length_eq : answers.length = p.inFlight.length
  /-- It stands where the attempt does, and the attempt was asked about once or not at all. -/
  checked : ∀ i, ∀ a : Attempt, p.inFlight[i]? = some a →
    ∃ answer, answers[i]? = some answer ∧ a.Checked i (queriesAt i seen) answer
  /-- There are no queries elsewhere. -/
  others : ∀ i, p.inFlight.length ≤ i → queriesAt i seen = []
  /-- No query is in progress. -/
  balance : seen.countP (·.isAsked) = seen.countP (·.isAnswered)
  /-- Nobody has been settled. -/
  unsettled : ∀ e ∈ seen, e.settled? = none

theorem map_answer?_of_answers? {checks : List StatusCheck}
    {answers : List (Except Fault PolledStatus)} (h : Checks.answers? checks = some answers) :
    checks.map (·.answer?) = answers.map some := by
  induction checks generalizing answers with
  | nil =>
      cases h
      rfl
  | cons c rest ih =>
      simp only [Checks.answers?, List.mapM_cons, Option.bind_eq_bind,
        Option.bind_eq_some_iff] at h
      obtain ⟨answer, hanswer, others, hothers, heq⟩ := h
      cases heq
      rw [List.map_cons, List.map_cons, hanswer, ih hothers]

theorem StatusCheck.answer?_eq_some {c : StatusCheck} {answer : Except Fault PolledStatus}
    (h : c.answer? = some answer) : c.state = .ended answer := by
  obtain ⟨a, state⟩ := c
  cases state with
  | waiting | asking => cases h
  | ended reply => rw [Option.some.inj h]

/-- Checks that have all ended are not in progress. -/
theorem inProgress_eq_zero {checks : List StatusCheck} {answers : List (Except Fault PolledStatus)}
    (h : checks.map (·.answer?) = answers.map some) : Checks.inProgress checks = 0 := by
  refine List.countP_eq_zero.mpr fun c hc => ?_
  have hmem : c.answer? ∈ answers.map some := h ▸ List.mem_map_of_mem hc
  obtain ⟨answer, -, hanswer⟩ := List.mem_map.mp hmem
  rw [StatusCheck.isAsking, StatusCheck.answer?_eq_some hanswer.symm]
  exact Bool.false_ne_true

theorem Checking.gathered {p : Pool} {seen : List PassEvent} {checks : List StatusCheck}
    {answers : List (Except Fault PolledStatus)} (h : Checking p seen checks)
    (hended : Checks.answers? checks = some answers) : Gathered p seen answers := by
  have hanswers := map_answer?_of_answers? hended
  have hlength : answers.length = checks.length := by
    simpa using (congrArg List.length hanswers).symm
  refine ⟨?_, ?_, h.others, ?_, h.unsettled⟩
  · rw [hlength, ← h.attempts, List.length_map]
  · intro i a ha
    rw [← h.attempts, List.getElem?_map, Option.map_eq_some_iff] at ha
    obtain ⟨c, hc, rfl⟩ := ha
    have hat := congrArg (·[i]?) hanswers
    simp only [List.getElem?_map, hc, Option.map_some] at hat
    obtain ⟨answer, hanswer, hsome⟩ := Option.map_eq_some_iff.mp hat.symm
    have hshown := h.shown i c hc
    rw [StatusCheck.ShownBy, StatusCheck.answer?_eq_some hsome.symm] at hshown
    exact ⟨answer, hanswer, hshown⟩
  · rw [h.balance, inProgress_eq_zero hanswers, Nat.add_zero]

/-- Where a pass can get. -/
inductive Reached (p : Pool) : List PassEvent → PassState → Prop where
  /-- It is checking. -/
  | checking {seen : List PassEvent} {checks : List StatusCheck} : Checking p seen checks →
    Reached p seen (.checking checks)
  /-- A check has failed, and nothing was done. -/
  | refused {seen : List PassEvent} {answers : List (Except Fault PolledStatus)} {fault : Fault} :
    Gathered p seen answers → collect answers = .error fault →
    Reached p seen (.over (.error fault) p)
  /-- Everyone has a status, and these are being settled or have been. -/
  | settling {asking settling : List PassEvent} {answers : List (Except Fault PolledStatus)}
      {statuses : List PolledStatus} {state : PassState} :
    Gathered p asking answers → collect answers = .ok statuses →
    Steps (PassStep p) (.settling {} 0 (p.inFlight.zip statuses)) settling state →
    (∀ e ∈ settling, e.query? = none) → state.isChecking = false →
    Reached p (asking ++ settling) state

section Reached

variable {p : Pool} {seen more : List PassEvent} {state next : PassState}

/-- A pass that settles asks nobody, and never checks again. -/
theorem PassStep.settles (h : PassStep p state more next) (hstate : state.isChecking = false) :
    (∀ e ∈ more, e.query? = none) ∧ next.isChecking = false := by
  cases h with
  | check | refuse | goOn => cases hstate
  | settle | breakOff =>
      refine ⟨fun e he => ?_, rfl⟩
      obtain ⟨_, -, rfl⟩ := List.mem_map.mp he
      rfl
  | finish => exact ⟨by simp, rfl⟩

/-- A pass that is over stays so. -/
theorem Steps.of_over {answer : Except Fault Nat} {q : Pool}
    (h : Steps (PassStep p) (.over answer q) more next) : more = [] ∧ next = .over answer q := by
  obtain h | ⟨_, _, _, -, hstep, -⟩ := h.cases_head
  · exact h
  · cases hstep

theorem Reached.step (h : Reached p seen state) (hstep : PassStep p state more next) :
    Reached p (seen ++ more) next := by
  cases h with
  | checking hchecking =>
      cases hstep with
      | check hat => exact .checking (hchecking.passStep hat)
      | refuse hended hfault =>
          rw [List.append_nil]
          exact .refused (hchecking.gathered hended) hfault
      | goOn hended hstatuses =>
          exact .settling (hchecking.gathered hended) hstatuses (.refl _) (by simp) rfl
  | refused => cases hstep
  | settling hgathered hstatuses hrun hquiet hstate =>
      obtain ⟨hmore, hnext⟩ := hstep.settles hstate
      rw [List.append_assoc]
      exact .settling hgathered hstatuses (.tail hrun hstep)
        (List.forall_mem_append.mpr ⟨hquiet, hmore⟩) hnext

theorem PassRun.reached (h : PassRun p seen state) : Reached p seen state :=
  Steps.keeps (I := fun seen state => Reached p seen state) (fun _ _ _ _ hI hstep => hI.step hstep)
    (.checking (.initial p)) h

end Reached

end LoadDispatch
