import LoadDispatch.FileStatus
import LoadDispatch.Job

/-!
# The environment of a load

A load talks to two services and to a person.  It does so through three records of operations,
each in a monad `m` that stands for the world:

* `JobService m`: sessions with the service that runs load jobs;
* `MetadataService m`: what the storage system says of paths;
* `Environment m`: both, with somebody to report to, a place to tell what happens and a clock to
  wait by.

Nothing else of the world is used, so whatever a load does is a sequence of these operations.  The
monad is a parameter: the command line runs in `IO`, a rehearsal in a state that records every
operation with its answer (`LoadDispatch.Trace`).

An operation that can fail answers with an `Except`, and never in any other way.

## Notices

The steps of a load are reported to the person.  This is an operation like the others, and it may
fail: an output need not have bytes for every path.

A `Notice` is told and not asked: it changes nothing, and telling it does not fail.  Besides the
entries of the log there are some that make a run observable from outside: the steps that were
reported, the number of attempts in flight after every change of it, and the number of status
queries a pass over them may have in progress at once.
-/

namespace LoadDispatch

/-- The number of a session with the job service, from 1 in the order of opening. -/
structure Session where
  /-- The number. -/
  number : Nat
deriving DecidableEq, Repr

/-- The operations of the job service. -/
structure JobService (m : Type → Type) where
  /-- Opens a session. -/
  connect : m (Except Fault Session)
  /-- Submits a job.  The answer is the job's number, if the service gives it one. -/
  submit : Session → JobConfig → m (Except Fault (Option Int))
  /-- Asks for the status of a job. -/
  poll : Session → Int → m (Except Fault PolledStatus)
  /-- Closes a session. -/
  close : Session → m (Except Fault Unit)

/-- A job service that refuses every operation with the same fault. -/
def JobService.refusing {m : Type → Type} [Monad m] (fault : Fault) : JobService m where
  connect := pure (.error fault)
  submit _ _ := pure (.error fault)
  poll _ _ := pure (.error fault)
  close _ := pure (.error fault)

/-- The operations of the storage system. -/
structure MetadataService (m : Type → Type) where
  /-- The metadata of a path. -/
  stat : String → m (Except Fault FileStatus)
  /-- The metadata of what is in a folder, in the order of listing. -/
  list : String → m (Except Fault (List FileStatus))

/-- A step of a load that a person is told of. -/
inductive Progress where
  /-- The file needs no job. -/
  | alreadyLoaded (path : String)
  /-- A job for the file was admitted. -/
  | loading (path : String)
deriving DecidableEq, Repr

/-- The line that tells of a step. -/
def Progress.line : Progress → String
  | .alreadyLoaded path => s!"{path} is already fully loaded"
  | .loading path => s!"{path} loading"

/-- The levels of a log, from the least to the most severe. -/
inductive LogLevel where
  | debug | info | warning | error | critical
deriving DecidableEq, Repr

/-- The severity of a level. -/
def LogLevel.severity : LogLevel → Nat
  | .debug => 10
  | .info => 20
  | .warning => 30
  | .error => 40
  | .critical => 50

/-- The name of a level. -/
def LogLevel.name : LogLevel → String
  | .debug => "DEBUG"
  | .info => "INFO"
  | .warning => "WARNING"
  | .error => "ERROR"
  | .critical => "CRITICAL"

/-- The parts of a load that write to the log. -/
inductive LogSource where
  /-- The pool of attempts in flight. -/
  | pool
  /-- A single attempt. -/
  | attempt
  /-- The load as a whole. -/
  | load
deriving DecidableEq, Repr

/-- The name of a source in the log. -/
def LogSource.name : LogSource → String
  | .pool => "distributed_load.application.runtime.active_job_pool"
  | .attempt => "distributed_load.application.runtime.job_attempt"
  | .load => "distributed_load.application.services.distributed_load_service"

/-- An entry of the log. -/
inductive LogEntry where
  /-- An attempt was admitted. -/
  | admitted (path : String) (inFlight capacity : Nat)
  /-- A job was seen finished. -/
  | finished (path : String) (status : JobStatus)
  /-- A session could not be closed. -/
  | releaseFailed (path : String) (fault : Fault)
  /-- A job failed and its retry budget is used up. -/
  | budgetSpent (path : String) (limit : Nat)
  /-- A submission failed; another one may follow. -/
  | submissionFailed (path : String) (used limit : Nat) (fault : Fault)
  /-- A status query failed; the job counts as failed. -/
  | pollFailed (job : Int) (path : String) (fault : Fault)
  /-- A load is over. -/
  | loadFinished (path : String) (completed abandoned : Nat)
deriving DecidableEq, Repr

namespace LogEntry

/-- The level of an entry. -/
def level : LogEntry → LogLevel
  | .admitted .. | .finished .. => .debug
  | .loadFinished .. => .info
  | .releaseFailed .. | .budgetSpent .. | .submissionFailed .. | .pollFailed .. => .warning

/-- The source of an entry. -/
def source : LogEntry → LogSource
  | .admitted .. | .finished .. | .releaseFailed .. => .pool
  | .budgetSpent .. | .submissionFailed .. | .pollFailed .. => .attempt
  | .loadFinished .. => .load

/-- The text of an entry. -/
def message : LogEntry → String
  | .admitted path inFlight capacity =>
    s!"Admitted load job for '{path}' ({inFlight}/{capacity} in flight)."
  | .finished path status => s!"Load job for '{path}' finished: {status.word}."
  | .releaseFailed path fault =>
    s!"Failed to release job service session for '{path}': {fault.message}"
  | .budgetSpent path limit =>
    s!"Failed to complete load job for '{path}' after {limit} attempts."
  | .submissionFailed path used limit fault =>
    s!"Failed to submit load job for '{path}' (attempt {used}/{limit}): {fault.message}"
  | .pollFailed job path fault =>
    s!"Failed to get status for load job {job} ('{path}'): {fault.message}"
  | .loadFinished path completed abandoned =>
    s!"Distributed load of '{path}' finished: {completed} jobs completed, " ++
      s!"{abandoned} abandoned."

end LogEntry

/-- What is told while a load runs. -/
inductive Notice where
  /-- A step was reported. -/
  | progress (step : Progress)
  /-- An entry for the log. -/
  | log (entry : LogEntry)
  /-- A pass over the attempts in flight begins, with this many status queries at once at most. -/
  | pass (atOnce : Nat)
  /-- The number of attempts in flight, after it may have changed. -/
  | inFlight (count : Nat)
deriving DecidableEq, Repr

/-- All that a load uses of the world. -/
structure Environment (m : Type → Type) where
  /-- The job service. -/
  jobs : JobService m
  /-- The storage system. -/
  files : MetadataService m
  /-- Reports a step to the person. -/
  report : Progress → m (Except Fault Unit)
  /-- Tells a notice. -/
  tell : Notice → m Unit
  /-- Waits for a number of seconds. -/
  pause : Float → m Unit

/-- The same environment with nobody to report to. -/
def Environment.withoutProgress {m : Type → Type} [Monad m] (env : Environment m) :
    Environment m :=
  { env with report := fun _ => pure (.ok ()) }

end LoadDispatch
