import LoadDispatch.Rehearsal.Script
import LoadDispatch.Trace

/-!
# Scripted services

A job service and a storage system that follow a script.

The job service gives out numbers from 1, unless the script has one for the submission, and
remembers which file a number was given for.  A file's status queries are answered by its script,
whose last step is repeated; a file without one is done at once.  The storage system answers from
two tables.  What is in no table does not exist.

A rehearsal makes its calls one after the other.  `peakPolls` is the number of status queries that
would have been in progress at once, had each taken its time.
-/

namespace LoadDispatch.Rehearsal

/-- A scripted answer to a submission. -/
inductive SubmitStep where
  /-- The next number. -/
  | next
  /-- A number of the script's own, or none. -/
  | given (job : Option Int)
  /-- A failure. -/
  | fault (fault : Fault)
deriving DecidableEq, Repr

/-- A scripted answer to a status query. -/
inductive PollStep where
  /-- A status. -/
  | status (text : String)
  /-- A failure. -/
  | fault (fault : Fault)
deriving DecidableEq, Repr

/-- What is said when more status queries are made than a script allows. -/
def pollLimitFault : Fault :=
  .outside .runtime "poll limit reached"

/-- A job service that follows a script. -/
structure JobScript where
  /-- The answers to submissions, by file. -/
  submissions : Script String SubmitStep := []
  /-- The answers to status queries, by file. -/
  polls : Script String PollStep := []
  /-- The sessions that cannot be opened. -/
  openFaults : List (Nat × Fault) := []
  /-- The sessions that cannot be closed. -/
  closeFaults : List (Nat × Fault) := []
  /-- Why no other session can be closed, if none can. -/
  everyClose : Option Fault := none
  /-- The number of status queries that are answered. -/
  pollLimit : Nat := 500
  /-- The number of status queries so far. -/
  pollsMade : Nat := 0
  /-- The greatest number given out so far. -/
  lastNumber : Int := 0
  /-- The files of the numbers, latest first. -/
  owners : List (Int × String) := []

namespace JobScript

/-- Answers a submission. -/
def submit (config : JobConfig) (s : JobScript) : Except Fault (Option Int) × JobScript :=
  let (step, submissions) := s.submissions.take config.path
  let s := { s with submissions }
  let own (job : Option Int) (s : JobScript) : JobScript :=
    match job with
    | some n => { s with owners := (n, config.path) :: s.owners }
    | none => s
  match step with
  | some (.fault fault) => (.error fault, s)
  | some (.given job) => (.ok job, own job s)
  | some .next | none =>
    let n := s.lastNumber + 1
    (.ok (some n), own (some n) { s with lastNumber := n })

/-- Answers a status query. -/
def poll (job : Int) (s : JobScript) : Except Fault PolledStatus × JobScript :=
  let s := { s with pollsMade := s.pollsMade + 1 }
  if s.pollLimit < s.pollsMade then (.error pollLimitFault, s)
  else
    let (step, polls) := match s.owners.lookup job with
      | some path => s.polls.takeRepeating path
      | none => (none, s.polls)
    let s := { s with polls }
    match step with
    | some (.status text) => (.ok (.ofText text), s)
    | some (.fault fault) => (.error fault, s)
    | none => (.ok (.known .completed), s)

/-- Whether a session can be opened. -/
def connect (session : Session) (s : JobScript) : Except Fault Unit :=
  match s.openFaults.lookup session.number with
  | some fault => .error fault
  | none => .ok ()

/-- Whether a session can be closed. -/
def close (session : Session) (s : JobScript) : Except Fault Unit :=
  match s.closeFaults.lookup session.number <|> s.everyClose with
  | some fault => .error fault
  | none => .ok ()

end JobScript

/-- A storage system that answers from tables. -/
structure FileTable where
  /-- The metadata of paths. -/
  stats : List (String × Except Fault FileStatus) := []
  /-- The listings of folders. -/
  listings : List (String × Except Fault (List FileStatus)) := []

namespace FileTable

/-- What is said of a path that is in no table. -/
def absent (path : String) : Fault :=
  .outside .pathNotFound s!"Path '{path}' does not exist"

/-- The metadata of a path. -/
def stat (t : FileTable) (path : String) : Except Fault FileStatus :=
  (t.stats.lookup path).getD (.error (absent path))

/-- The listing of a folder. -/
def list (t : FileTable) (path : String) : Except Fault (List FileStatus) :=
  (t.listings.lookup path).getD (.error (absent path))

/-- The tables with the entries of others in front of their own. -/
def merge (t other : FileTable) : FileTable :=
  { stats := other.stats ++ t.stats, listings := other.listings ++ t.listings }

end FileTable

/-- A job service and a storage system that follow scripts. -/
structure Services where
  /-- The job service. -/
  jobs : JobScript := {}
  /-- The storage system. -/
  files : FileTable := {}

/-- The world of scripted services. -/
def Services.world : World Services where
  connect session s := (s.jobs.connect session, s)
  submit _ config s :=
    let (answer, jobs) := s.jobs.submit config
    (answer, { s with jobs })
  poll _ job s :=
    let (answer, jobs) := s.jobs.poll job
    (answer, { s with jobs })
  close session s := (s.jobs.close session, s)
  stat path s := (s.files.stat path, s)
  list path s := (s.files.list path, s)

/-! ## Queries that overlap -/

/-- How many status queries were in progress at once, as far as a trace has been read. -/
structure PollCount where
  /-- The number of queries that will still be answered. -/
  answerable : Nat
  /-- The greatest number in progress at once so far. -/
  peak : Nat := 0

/-- Counts one event.  A pass says how many queries it will have in progress at once; one that is
refused on the spot is not in progress. -/
def PollCount.count (c : PollCount) : Event → PollCount
  | .told (.pass n) => { c with peak := max c.peak (min n c.answerable) }
  | .polled .. => { c with answerable := c.answerable - 1 }
  | _ => c

/-- The greatest number of status queries that were in progress at once, of which the first `limit`
are answered and the others refused.  Queries that are answered on the spot never overlap. -/
def peakPolls (overlapping : Bool) (limit : Nat) (events : List Event) : Nat :=
  let count := events.foldl PollCount.count { answerable := limit }
  if overlapping then count.peak else min 1 count.peak

end LoadDispatch.Rehearsal
