import LoadDispatch.CommandLine.Command
import LoadDispatch.Text.Lines

/-!
# Traces

A run is observed from outside as its trace: every operation on the world with its answer, and
every notice, in order.  This module makes traces by running a load, or a pool, or the whole
command, in a world that answers by a rule of its own.

* `World ω` answers the operations of a load; `Web ω` answers requests.  Both keep a state `ω`, so
  an answer may depend on everything that happened before.  Every deterministic environment is one
  of these.
* `Desk ω` is where the run is recorded: the state of the world, the numbers given out so far, and
  the journal, latest event first.
* `World.environment`, `Web.transport` and `Desk.terminal` are the operations in the state monad of
  the desk.  Each does what the world says and writes one event.

An operation is recorded also when it fails.  Two are not recorded, because they do not reach the
world: a request on a closed client, and closing a client again.
-/

namespace LoadDispatch

/-- One event of a run. -/
inductive Event where
  /-- A session was opened, or could not be. -/
  | opened (session : Session) (answer : Except Fault Unit)
  /-- A job was submitted. -/
  | submitted (session : Session) (config : JobConfig) (answer : Except Fault (Option Int))
  /-- The status of a job was asked for. -/
  | polled (session : Session) (job : Int) (answer : Except Fault PolledStatus)
  /-- A session was closed, or could not be. -/
  | closed (session : Session) (answer : Except Fault Unit)
  /-- The metadata of a path was asked for. -/
  | statted (path : String) (answer : Except Fault FileStatus)
  /-- A folder was listed. -/
  | listed (path : String) (answer : Except Fault (List FileStatus))
  /-- A client was opened. -/
  | connected (client : Nat)
  /-- A request was sent. -/
  | exchanged (client : Nat) (request : Http.Request) (answer : Except Fault Http.Response)
  /-- A client was closed. -/
  | disconnected (client : Nat)
  /-- A notice was told. -/
  | told (notice : Notice)
  /-- The run waited. -/
  | paused (seconds : Float)
  /-- A line was written to the output, or could not be. -/
  | printed (text : String) (answer : Except Fault Unit)
  /-- A line was written to the error output. -/
  | complained (text : String)
  /-- An entry was written to the log. -/
  | logged (entry : LogEntry)
  /-- The usage was shown. -/
  | helped

/-- Where a run is recorded. -/
structure Desk (ω : Type) where
  /-- The state of the world. -/
  world : ω
  /-- How many sessions were asked for. -/
  sessions : Nat := 0
  /-- How many clients were opened. -/
  clients : Nat := 0
  /-- The clients that are open. -/
  openClients : List Nat := []
  /-- The events so far, latest first. -/
  journal : List Event := []

/-- A run that is recorded at a desk. -/
abbrev Recorded (ω α : Type) : Type := StateM (Desk ω) α

namespace Desk

variable {ω : Type}

/-- Adds an event to the journal. -/
def write (d : Desk ω) (e : Event) : Desk ω :=
  { d with journal := e :: d.journal }

/-- The events so far, in order. -/
def events (d : Desk ω) : List Event :=
  d.journal.reverse

/-- The events behind the first `n`. -/
def eventsSince (d : Desk ω) (n : Nat) : List Event :=
  (d.journal.take (d.journal.length - n)).reverse

end Desk

/-- Writes an event. -/
def record {ω : Type} (e : Event) : Recorded ω Unit :=
  modify (·.write e)

/-- Asks the world, and writes the event with its answer. -/
def consult {ω α : Type} (ask : ω → α × ω) (event : α → Event) : Recorded ω α := fun d =>
  let (answer, world) := ask d.world
  (answer, { d with world }.write (event answer))

/-- The answers to the operations of a load. -/
structure World (ω : Type) where
  /-- Whether the session with a number can be opened. -/
  connect : Session → ω → Except Fault Unit × ω
  /-- The answer to a submission. -/
  submit : Session → JobConfig → ω → Except Fault (Option Int) × ω
  /-- The answer to a status query. -/
  poll : Session → Int → ω → Except Fault PolledStatus × ω
  /-- Whether a session can be closed. -/
  close : Session → ω → Except Fault Unit × ω
  /-- The metadata of a path. -/
  stat : String → ω → Except Fault FileStatus × ω
  /-- The listing of a folder. -/
  list : String → ω → Except Fault (List FileStatus) × ω

namespace World

variable {ω : Type}

/-- The job service of a world.  A session has its number also if it cannot be opened. -/
def jobs (w : World ω) : JobService (StateM (Desk ω)) where
  connect := do
    modify fun d => { d with sessions := d.sessions + 1 }
    let session : Session := ⟨(← get).sessions⟩
    let answer ← consult (w.connect session) (.opened session)
    pure (answer.map fun _ => session)
  submit session config := consult (w.submit session config) (.submitted session config)
  poll session job := consult (w.poll session job) (.polled session job)
  close session := consult (w.close session) (.closed session)

/-- The storage system of a world. -/
def files (w : World ω) : MetadataService (StateM (Desk ω)) where
  stat path := consult (w.stat path) (.statted path)
  list path := consult (w.list path) (.listed path)

/-- All of a world. -/
def environment (w : World ω) : Environment (StateM (Desk ω)) where
  jobs := w.jobs
  files := w.files
  report step := do
    record (.told (.progress step))
    pure (.ok ())
  tell notice := record (.told notice)
  pause seconds := record (.paused seconds)

end World

/-- The answers to requests. -/
structure Web (ω : Type) where
  /-- The answer to a request of a client. -/
  respond : Nat → Http.Request → ω → Except Fault Http.Response × ω

/-- Connections to a web. -/
def Web.transport {ω : Type} (w : Web ω) : Http.Transport (StateM (Desk ω)) where
  connect := do
    modify fun d => { d with clients := d.clients + 1 }
    let client := (← get).clients
    modify fun d => { d with openClients := client :: d.openClients }
    record (.connected client)
    pure client
  send client request := do
    if (← get).openClients.contains client then
      consult (w.respond client request) (.exchanged client request)
    else pure (.error .clientClosed)
  close client := do
    if (← get).openClients.contains client then
      modify fun d => { d with openClients := d.openClients.filter (· != client) }
      record (.disconnected client)

/-- A terminal whose lines are recorded as the outputs write them. -/
def Desk.terminal {ω : Type} (outputs : CommandLine.Outputs := {}) :
    CommandLine.Terminal (StateM (Desk ω)) where
  out line := do
    record (.printed (outputs.outText line) (outputs.accept line))
    pure (outputs.accept line)
  err line := record (.complained (outputs.errText line))
  log entry := record (.logged entry)
  help := record .helped
  misuse := pure ()
  note notice := record (.told notice)
  pause seconds := record (.paused seconds)

/-! ## What a trace shows -/

namespace Event

/-- The text that the event writes to the output, if any. -/
def output? (usage : String) : Event → Option String
  | .printed text (.ok ()) => some text
  | .helped => some usage
  | _ => none

/-- The text that the event writes to the error output, if any.  An entry of the log is written as
it is. -/
def errorOutput? : Event → Option String
  | .complained text => some text
  | .logged entry => some (CommandLine.logLine entry)
  | _ => none

end Event

/-- The lines of texts that are written one below the other. -/
def linesWritten (texts : List String) : List String :=
  texts.flatMap fun text => Text.lines (text ++ "\n")

/-- The lines of the output, given how the usage is shown. -/
def outputLines (usage : String) (events : List Event) : List String :=
  linesWritten (events.filterMap (Event.output? usage))

/-- The lines of the error output. -/
def errorLines (events : List Event) : List String :=
  linesWritten (events.filterMap Event.errorOutput?)

end LoadDispatch
