import LoadDispatch.Pool.Sweep
import LoadDispatch.Steps

/-!
# Status checks side by side

`askAll` asks about one attempt after the other.  The queries do not depend on each other, so a
pool may as well have several in progress at once, as long as they are no more than its limit
allows.  This module is the asking stage in that reading: a state is a list of checks, one for each
attempt in flight and in their order, and a step begins one check or ends one.

* A check begins when it takes a permit.  An attempt that needs no asking ends in the same step and
  gives the permit back.
* A check in progress ends at any time, before or after any other, with any answer.
* `Attempt.CheckStep` is such a step of one check, and `StepAt` has it made at a place among others.
* Once all checks have ended, `answers?` reads their answers off in the order of the attempts, which
  is how `Pool.finishSweep` takes them.

`Run` is a sequence of steps together with what was seen of it from outside, a list of
`CheckEvent`s in the order in which they happened.
-/

namespace LoadDispatch

/-- How far the check of one attempt is. -/
inductive CheckState where
  /-- It has not begun. -/
  | waiting
  /-- The service is being asked. -/
  | asking
  /-- It has ended. -/
  | ended (answer : Except Fault PolledStatus)

/-- The check of one attempt. -/
structure StatusCheck where
  /-- The attempt. -/
  attempt : Attempt
  /-- How far it is. -/
  state : CheckState := .waiting

namespace StatusCheck

/-- Whether the service is being asked. -/
def isAsking (c : StatusCheck) : Bool :=
  match c.state with
  | .asking => true
  | _ => false

/-- The answer, once there is one. -/
def answer? (c : StatusCheck) : Option (Except Fault PolledStatus) :=
  match c.state with
  | .ended answer => some answer
  | _ => none

end StatusCheck

/-- What a step of a check shows. -/
inductive CheckSign where
  /-- The service is asked about the job. -/
  | asked (job : Int)
  /-- The service has answered. -/
  | answered (answer : Except Fault PolledStatus)

/-- One step of the check of an attempt, which begins only if there is a permit. -/
inductive Attempt.CheckStep (a : Attempt) (permit : Prop) :
    CheckState → List CheckSign → CheckState → Prop where
  /-- An attempt that needs no asking is checked. -/
  | skip : a.asksFor = none → permit → CheckStep a permit .waiting [] (.ended a.statusUnasked)
  /-- The service is asked about an attempt. -/
  | ask {job : Int} : a.asksFor = some job → permit →
    CheckStep a permit .waiting [.asked job] .asking
  /-- The service answers. -/
  | answer (answer : Except Fault PolledStatus) :
    CheckStep a permit .asking [.answered answer] (.ended (absorb answer))

/-- What is seen of a status check from outside. -/
inductive CheckEvent where
  /-- The service is asked about a job. -/
  | asked (session : Session) (job : Int)
  /-- The service has answered. -/
  | answered (session : Session) (answer : Except Fault PolledStatus)

/-- What a sign shows, given whose check it is of. -/
def CheckEvent.ofSign (session : Session) : CheckSign → CheckEvent
  | .asked job => .asked session job
  | .answered answer => .answered session answer

namespace Checks

/-- The checks of attempts before any has begun. -/
def initial (attempts : List Attempt) : List StatusCheck :=
  attempts.map ({ attempt := · })

/-- How many queries are in progress. -/
def inProgress (checks : List StatusCheck) : Nat :=
  checks.countP (·.isAsking)

/-- The answers in the order of the attempts, once all checks have ended. -/
def answers? (checks : List StatusCheck) : Option (List (Except Fault PolledStatus)) :=
  checks.mapM (·.answer?)

/-- One step of the check at a place, with the number of permits. -/
inductive StepAt (atOnce : Nat) (a : Attempt) :
    Nat → List StatusCheck → List CheckSign → List StatusCheck → Prop where
  /-- The checks in front and behind stay as they are. -/
  | mk (before behind : List StatusCheck) {state next : CheckState} {signs : List CheckSign} :
    a.CheckStep (inProgress (before ++ ⟨a, state⟩ :: behind) < atOnce) state signs next →
    StepAt atOnce a before.length (before ++ ⟨a, state⟩ :: behind) signs
      (before ++ ⟨a, next⟩ :: behind)

/-- One step of the checks, with the number of permits and what is seen of it. -/
inductive Step (atOnce : Nat) :
    List StatusCheck → List CheckEvent → List StatusCheck → Prop where
  /-- The check of an attempt makes a step. -/
  | mk {a : Attempt} {place : Nat} {checks last : List StatusCheck} {signs : List CheckSign} :
    StepAt atOnce a place checks signs last →
    Step atOnce checks (signs.map (.ofSign a.session)) last

/-- Any number of steps, with all that is seen of them. -/
abbrev Run (atOnce : Nat) : List StatusCheck → List CheckEvent → List StatusCheck → Prop :=
  Steps (Step atOnce)

theorem inProgress_append (xs ys : List StatusCheck) :
    inProgress (xs ++ ys) = inProgress xs + inProgress ys :=
  List.countP_append

theorem inProgress_cons (c : StatusCheck) (cs : List StatusCheck) :
    inProgress (c :: cs) = inProgress cs + if c.isAsking then 1 else 0 :=
  List.countP_cons

/-- A step leaves the attempts and their order as they are. -/
theorem StepAt.map_attempt {atOnce : Nat} {a : Attempt} {place : Nat}
    {checks last : List StatusCheck} {signs : List CheckSign}
    (h : StepAt atOnce a place checks signs last) :
    last.map (·.attempt) = checks.map (·.attempt) := by
  cases h with
  | mk => simp

end Checks

end LoadDispatch
