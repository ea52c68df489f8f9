import LoadDispatch.Environment
import LoadDispatch.RetryBudget

/-!
# Attempts

An `Attempt` is one load job on its way: its session with the job service, which nobody else uses,
and its retry budget.  It has three operations.

* `submit` spends one submission of the budget, if there is one left.
* `status` asks for the status of the job.  A job that could not be submitted or whose status
  cannot be had counts as failed.
* `release` closes the session, once; after that the other two are refused.

A fault of the job service is absorbed by all three: it is logged and shows as a failed job.  Any
other fault is passed on.  Each operation returns the attempt as it is afterwards, whether it
succeeded or not.
-/

namespace LoadDispatch

/-- One load job on its way. -/
structure Attempt where
  /-- The session with the job service. -/
  session : Session
  /-- What to load. -/
  config : JobConfig
  /-- The submissions granted so far, and their limit. -/
  budget : RetryBudget
  /-- The number the service gave to the latest submission. -/
  jobId : Option Int := none
  /-- Whether the session is closed, or was tried to be. -/
  released : Bool := false
deriving DecidableEq, Repr

namespace Attempt

variable {m : Type → Type} [Monad m]

/-- The number of submissions so far. -/
def submissions (a : Attempt) : Nat :=
  a.budget.used

/-- Submits the job; answers `false` if the budget is used up.  A fault of the job service uses up
the submission and leaves the job without a number. -/
def submit (env : Environment m) (a : Attempt) : m (Except Fault Bool × Attempt) :=
  if a.released then pure (.error (.attemptReleased a.config.path), a)
  else
    match a.budget.spend? with
    | none => do
      env.tell (.log (.budgetSpent a.config.path a.budget.limit))
      pure (.ok false, a)
    | some budget => do
      match ← env.jobs.submit a.session a.config with
      | .ok jobId => pure (.ok true, { a with budget, jobId })
      | .error fault =>
        let a := { a with budget, jobId := none }
        if fault.isJobService then do
          env.tell (.log (.submissionFailed a.config.path budget.used budget.limit fault))
          pure (.ok true, a)
        else pure (.error fault, a)

/-- The job the service has to be asked about for the status, if it has to be asked. -/
def asksFor (a : Attempt) : Option Int :=
  if a.released then none else a.jobId

/-- The status that needs no asking. -/
def statusUnasked (a : Attempt) : Except Fault PolledStatus :=
  if a.released then .error (.attemptReleased a.config.path) else .ok (.known .failed)

/-- What an answer of the service counts as: a fault of the job service is a failed job. -/
def absorb : Except Fault PolledStatus → Except Fault PolledStatus
  | .ok status => .ok status
  | .error fault => if fault.isJobService then .ok (.known .failed) else .error fault

/-- Asks for the status of the job. -/
def status (env : Environment m) (a : Attempt) : m (Except Fault PolledStatus) :=
  match a.asksFor with
  | none => pure a.statusUnasked
  | some jobId => do
    match ← env.jobs.poll a.session jobId with
    | .ok status => pure (.ok status)
    | .error fault => do
      if fault.isJobService then
        env.tell (.log (.pollFailed jobId a.config.path fault))
      pure (absorb (.error fault))

/-- Closes the session, unless that was done before.  A session that cannot be closed counts as
closed. -/
def release (env : Environment m) (a : Attempt) : m (Except Fault Unit × Attempt) :=
  if a.released then pure (.ok (), a)
  else do
    let answer ← env.jobs.close a.session
    pure (answer, { a with released := true })

/-- The operations of an attempt. -/
inductive Call where
  /-- Submit the job. -/
  | submit
  /-- Ask for its status. -/
  | status
  /-- Close its session. -/
  | release
deriving DecidableEq, Repr

/-- The answers of the operations. -/
inductive Reply where
  /-- Whether the job was submitted. -/
  | submitted (granted : Bool)
  /-- The status of the job. -/
  | status (status : PolledStatus)
  /-- The session is closed. -/
  | released
deriving DecidableEq, Repr

/-- Performs one operation. -/
def perform (env : Environment m) (a : Attempt) : Call → m (Except Fault Reply × Attempt)
  | .submit => do
    let (answer, a) ← a.submit env
    pure (answer.map Reply.submitted, a)
  | .status => do
    let answer ← a.status env
    pure (answer.map Reply.status, a)
  | .release => do
    let (answer, a) ← a.release env
    pure (answer.map fun _ => Reply.released, a)

end Attempt

end LoadDispatch
