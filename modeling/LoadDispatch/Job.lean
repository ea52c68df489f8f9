import LoadDispatch.Fault
import LoadDispatch.Text.Blank
import LoadDispatch.Text.Upper

/-!
# Load jobs

A load job asks the job service to bring one file into the cache.  While it is with the service it
has one of five statuses, which fall into three classes: *pending* ones say that it is on its way,
*finished* ones that nothing is left to do, and `failed` that it may be submitted again.

The service's words for the statuses are read in two ways.  `JobStatus.ofWord?` takes a word as it
is.  `JobStatus.parse` takes what came over the wire, in any case and with blanks around it.
-/

namespace LoadDispatch

/-- What to load: a file, and the number of replicas of each of its blocks. -/
structure JobConfig where
  /-- The path of the file. -/
  path : String
  /-- The number of replicas. -/
  replication : Int := 1
deriving DecidableEq, Repr

/-- What the job service knows of a job. -/
inductive JobStatus where
  /-- Accepted and not started. -/
  | created
  /-- Started and not finished. -/
  | running
  /-- Done. -/
  | completed
  /-- Taken back. -/
  | canceled
  /-- Given up. -/
  | failed
deriving DecidableEq, Repr

namespace JobStatus

/-- All statuses. -/
def all : List JobStatus := [.created, .running, .completed, .canceled, .failed]

/-- The service's word for a status. -/
def word : JobStatus → String
  | .created => "CREATED"
  | .running => "RUNNING"
  | .completed => "COMPLETED"
  | .canceled => "CANCELED"
  | .failed => "FAILED"

/-- The status that a word names. -/
def ofWord? (s : String) : Option JobStatus :=
  all.find? (·.word == s)

/-- A job on its way. -/
def isPending : JobStatus → Bool
  | .created | .running => true
  | _ => false

/-- A job with nothing left to do. -/
def isFinished : JobStatus → Bool
  | .completed | .canceled => true
  | _ => false

/-- Every status is named by its own word. -/
theorem ofWord?_word (s : JobStatus) : ofWord? s.word = some s := by
  cases s <;> decide

/-- Reads a status that came over the wire. -/
def parse (s : String) : Except Fault JobStatus :=
  match ofWord? (Text.upper (Text.trim s)) with
  | some status => .ok status
  | none => .error (.unreadableStatus s)

end JobStatus

/-- The answer to a status query: a status, or a word that names none. -/
inductive PolledStatus where
  /-- One of the five statuses. -/
  | known (status : JobStatus)
  /-- Any other word. -/
  | unknown (text : String)
deriving DecidableEq, Repr

/-- The answer that is written as `s`. -/
def PolledStatus.ofText (s : String) : PolledStatus :=
  match JobStatus.ofWord? s with
  | some status => .known status
  | none => .unknown s

/-- The text of an answer. -/
def PolledStatus.text : PolledStatus → String
  | .known status => status.word
  | .unknown text => text

end LoadDispatch
