import LoadDispatch.CommandLine.Arguments
import LoadDispatch.Http.JobClient
import LoadDispatch.Http.MetadataClient
import LoadDispatch.Settings
import LoadDispatch.Text.ControlSequence

/-!
# The command

The command reads its settings from the environment, sets the log level, and loads the path over
HTTP.  It ends in one of two ways: with an exit code, or with a fault that nobody expected and that
is passed on.  A fault that a load reports as its own is printed, and the exit code is 1.

The client of the storage system is opened before the load and closed after it, however the load
ends.

The output need not take every line: it may lack bytes for a character of a path, and then the line
that tells of the path is a fault of the load.  The error output takes every line somehow.
-/

namespace LoadDispatch.CommandLine

/-- What the two outputs of a process make of the lines that are written to them. -/
structure Outputs where
  /-- Whether the output is a terminal. -/
  outIsTerminal : Bool := false
  /-- Whether the error output is one. -/
  errIsTerminal : Bool := false
  /-- The name of their encoding. -/
  encoding : String := "utf-8"
  /-- The code points for which it has no bytes. -/
  lacks : Nat → Bool := Text.isSurrogate
  /-- What is wrong with these. -/
  reason : String := "surrogates not allowed"

namespace Outputs

/-- A line as it is written.  Control sequences are only for a terminal. -/
def plain (isTerminal : Bool) (line : String) : String :=
  if isTerminal then line else Text.withoutControls line

/-- A line as it is written to the output. -/
def outText (o : Outputs) (line : String) : String :=
  plain o.outIsTerminal line

/-- Whether the output takes a line. -/
def accept (o : Outputs) (line : String) : Except Fault Unit :=
  match Text.refusal? o.encoding o.reason o.lacks (o.outText line) with
  | some refusal => .error (.unencodable refusal)
  | none => .ok ()

/-- A line as it is written to the error output, with an escape for each character without
bytes. -/
def errText (o : Outputs) (line : String) : String :=
  Text.withEscapes o.lacks (plain o.errIsTerminal line)

end Outputs

/-- Where a command writes. -/
structure Terminal (m : Type → Type) where
  /-- Writes a line to the output, if the output takes it. -/
  out : String → m (Except Fault Unit)
  /-- Writes a line to the error output. -/
  err : String → m Unit
  /-- Writes an entry of the log. -/
  log : LogEntry → m Unit
  /-- Shows how the command is used, because somebody asked. -/
  help : m Unit
  /-- Says that the arguments cannot be used. -/
  misuse : m Unit
  /-- Is told what nobody sees. -/
  note : Notice → m Unit
  /-- Waits for a number of seconds. -/
  pause : Float → m Unit

/-- The least severity that is logged, with its name. -/
structure LogThreshold where
  /-- The name. -/
  name : String
  /-- The severity. -/
  severity : Nat
deriving DecidableEq, Repr

namespace LogThreshold

/-- The threshold at a level. -/
def ofLevel (l : LogLevel) : LogThreshold :=
  { name := l.name, severity := l.severity }

/-- The names of thresholds.  Two levels have a second name. -/
def names : List (String × LogThreshold) := [
  ("CRITICAL", ofLevel .critical), ("FATAL", ofLevel .critical), ("ERROR", ofLevel .error),
  ("WARN", ofLevel .warning), ("WARNING", ofLevel .warning), ("INFO", ofLevel .info),
  ("DEBUG", ofLevel .debug), ("NOTSET", { name := "NOTSET", severity := 0 })]

/-- The threshold with a name. -/
def ofName? (name : String) : Option LogThreshold :=
  names.lookup name

/-- The threshold before any is set. -/
def initial : LogThreshold :=
  ofLevel .warning

end LogThreshold

/-- The line of a log entry, behind the time. -/
def logLine (e : LogEntry) : String :=
  s!"{e.level.name} {e.source.name}: {e.message}"

/-- How a command ends. -/
inductive Ending where
  /-- With an exit code. -/
  | exit (code : Nat)
  /-- With a fault that is passed on, and the fault of closing noted on it, if any. -/
  | escaped (fault : Fault) (closing : Option Fault)
  /-- Its patience ran out. -/
  | unfinished
deriving DecidableEq, Repr

/-- What a command leaves behind. -/
structure Result where
  /-- The threshold of the log, if it was set up. -/
  threshold : Option LogThreshold := none
  /-- How it ended. -/
  ending : Ending
deriving DecidableEq, Repr

/-- The version. -/
def version : String := "0.1.0"

variable {m : Type → Type} [Monad m]

/-- Tells a notice of a load at a terminal. -/
def Terminal.tell (terminal : Terminal m) (threshold : LogThreshold) : Notice → m Unit
  | .log entry =>
    if threshold.severity ≤ entry.level.severity then terminal.log entry else pure ()
  | notice => terminal.note notice

/-- The ending that a fault calls for. -/
def report (terminal : Terminal m) (fault : Fault) (closing : Option Fault) : m Ending :=
  if fault.kind.isReported then do
    terminal.err s!"Error: {fault.message}"
    pure (.exit 1)
  else pure (.escaped fault closing)

/-- Loads what is asked for, over HTTP. -/
def loadOverHttp (terminal : Terminal m) (transport : Http.Transport m) (patience : Patience)
    (threshold : LogThreshold) (settings : Settings) (invocation : Invocation) : m LoadResult := do
  match ← Http.MetadataClient.open? transport settings.metadataEndpoint
      (some settings.requestTimeout) with
  | .error fault => pure (.failed fault none)
  | .ok client => do
    let env : Environment m := {
      jobs := Http.jobService transport settings.jobServiceEndpoint (some settings.requestTimeout)
      files := client.service transport
      report := fun step => terminal.out step.line
      tell := terminal.tell threshold
      pause := terminal.pause }
    let result ← load env patience settings.policy {
      path := invocation.path
      replication := invocation.replication.getD settings.defaultReplication
      maxActiveJobs := some (invocation.activeJobs.getD settings.maxActiveJobs) }
    client.close transport
    pure result

/-- The name of the log level to use: a given one, unless it is empty, or the one of the
settings. -/
def levelName (settings : Settings) (invocation : Invocation) : String :=
  match invocation.logLevel with
  | some name => Text.upper (if name = "" then settings.logLevel else name)
  | none => Text.upper settings.logLevel

/-- Runs the command for an invocation. -/
def runInvocation (terminal : Terminal m) (transport : Http.Transport m) (patience : Patience)
    (environment : List (String × String)) (invocation : Invocation) : m Result := do
  match Settings.read { environment } with
  | .error report => pure { ending := .escaped (.refused report) none }
  | .ok settings => do
    match LogThreshold.ofName? (levelName settings invocation) with
    | none =>
      let fault := Fault.logLevel (levelName settings invocation)
      pure { threshold := some .initial, ending := .escaped fault none }
    | some threshold => do
      match ← loadOverHttp terminal transport patience threshold settings invocation with
      | .finished .. => pure { threshold, ending := .exit 0 }
      | .unfinished => pure { threshold, ending := .unfinished }
      | .failed fault closing => do
        let ending ← report terminal fault closing
        pure { threshold, ending }

/-- Runs the command. -/
def run (terminal : Terminal m) (transport : Http.Transport m) (patience : Patience)
    (environment : List (String × String)) (arguments : List String) : m Result := do
  match wish arguments with
  | .unusable => do
    terminal.misuse
    pure { ending := .exit 2 }
  | .help => do
    terminal.help
    pure { ending := .exit 0 }
  | .version => do
    match ← terminal.out version with
    | .ok () => pure { ending := .exit 0 }
    | .error fault => pure { ending := .escaped fault none }
  | .run invocation => runInvocation terminal transport patience environment invocation

end LoadDispatch.CommandLine
