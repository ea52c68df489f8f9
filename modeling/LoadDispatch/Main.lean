import LoadDispatch.CommandLine.Command
import LoadDispatch.Http.Wire
import Std.Async.DNS
import Std.Async.Select
import Std.Async.TCP
import Std.Async.Timer
import Std.Time

/-!
# The program

The command on a real terminal and a real network.  Everything that is decided is decided by
`CommandLine.run`; here lines are printed, bytes sent and received, and time passes.

A request opens a connection of its own.  Only plain HTTP is spoken.
-/

open Std.Async

namespace LoadDispatch.Program

/-- A fault of a connection. -/
def connectionFault (fault : TransportFault) (text : String) : Fault :=
  .outside (.transport fault) text

/-- A number of seconds in milliseconds, if it is no longer than a month. -/
def milliseconds? (seconds : Float) : Option Nat :=
  if seconds < 2600000.0 then some (seconds * 1000.0).ceil.toUInt64.toNat else none

/-- Waits for an action, for a limited time if there is a limit. -/
def within {α : Type} (limit : Option Nat) (late failed : TransportFault) (action : Async α) :
    Async (Except Fault α) := do
  let guarded : Async (Except Fault α) := do
    try
      let a ← action
      pure (.ok a)
    catch e => pure (.error (connectionFault failed e.toString))
  match limit with
  | none => guarded
  | some ms =>
    let alarm : Async (Except Fault α) := do
      Std.Async.sleep (Std.Time.Millisecond.Offset.ofNat ms)
      pure (.error (connectionFault late ""))
    let _ : Inhabited (Except Fault α) := ⟨.error (connectionFault late "")⟩
    Async.race guarded alarm

/-- The socket address of an address and a port. -/
def socketAddress (address : Std.Net.IPAddr) (port : UInt16) : Std.Net.SocketAddress :=
  match address with
  | .v4 addr => .v4 { addr, port }
  | .v6 addr => .v6 { addr, port }

/-- Receives bytes until the other side closes. -/
partial def receiveAll (socket : TCP.Socket.Client) (limit : Option Nat) (done : ByteArray) :
    Async (Except Fault ByteArray) := do
  match ← within limit .readTimeout .read (socket.recv? 65536) with
  | .error fault => pure (.error fault)
  | .ok none => pure (.ok done)
  | .ok (some bytes) => receiveAll socket limit (done ++ bytes)

/-- Sends a request to an address and waits for the response. -/
def exchangeWith (address : Std.Net.SocketAddress) (request : Http.Request) :
    Async (Except Fault Http.Response) := do
  let limit := request.timeout.bind milliseconds?
  let socket ← TCP.Socket.Client.mk
  match ← within limit .connectTimeout .connect (socket.connect address) with
  | .error fault => pure (.error fault)
  | .ok () =>
    let bytes : ByteArray := ⟨(Http.Wire.requestBytes request).toArray⟩
    match ← within limit .writeTimeout .write (socket.sendAll #[bytes]) with
    | .error fault => pure (.error fault)
    | .ok () =>
      match ← receiveAll socket limit .empty with
      | .error fault => pure (.error fault)
      | .ok received =>
        match Http.Wire.response? received.toList with
        | some response => pure (.ok response)
        | none => pure (.error (connectionFault .remoteProtocol
            "Server disconnected without sending a response."))

/-- Sends a request over the network. -/
def sendOverNetwork (request : Http.Request) : IO (Except Fault Http.Response) := do
  if request.url.scheme ≠ "http" then
    pure (.error (connectionFault .unsupportedProtocol
      "Request URL is missing an 'http://' protocol."))
  else
    let port := (request.url.port.getD 80).toNat.toUInt16
    let attempt : Async (Except Fault Http.Response) := do
      let addresses ← DNS.getAddrInfo request.url.host (toString port) none
      match addresses[0]? with
      | some address => exchangeWith (socketAddress address port) request
      | none => pure (.error (connectionFault .connect "Name or service not known"))
    try attempt.block
    catch e => pure (.error (connectionFault .connect e.toString))

/-- The network as a transport: the number of clients so far, and those that are open. -/
def network (clients : IO.Ref Nat) (opened : IO.Ref (List Nat)) : Http.Transport IO where
  connect := do
    clients.modify (· + 1)
    let client ← clients.get
    opened.modify (client :: ·)
    pure client
  send client request := do
    if (← opened.get).contains client then sendOverNetwork request
    else pure (.error .clientClosed)
  close client := opened.modify (·.filter (· != client))

/-- The time in front of a log line. -/
def timeStamp : IO String := do
  let now ← Std.Time.PlainDateTime.now
  pure (now.format "uuuu-MM-dd HH:mm:ss,SSS")

/-- How the command is used. -/
def usage : String :=
  "Usage: distributed-load [OPTIONS] PATH\n\n" ++
  "  Load a file or every file under a directory, skipping fully loaded files.\n\n" ++
  "Options:\n" ++
  "  --replication replicas  Number of block replicas of each loaded file, default: 1\n" ++
  "  --active-jobs jobs      Maximum number of active outgoing jobs, default: 1000\n" ++
  "  --log-level TEXT        Override log level.\n" ++
  "  --version               Show version and exit.\n" ++
  "  --help                  Show this message and exit.\n"

/-- The outputs of the process. -/
def outputs : IO CommandLine.Outputs := do
  pure {
    outIsTerminal := ← (← IO.getStdout).isTty
    errIsTerminal := ← (← IO.getStderr).isTty }

/-- The terminal of the process. -/
def terminal : CommandLine.Terminal IO where
  out line := do
    let outputs ← outputs
    match outputs.accept line with
    | .error fault => pure (.error fault)
    | .ok () => do
      IO.println (outputs.outText line)
      pure (.ok ())
  err line := do IO.eprintln ((← outputs).errText line)
  log entry := do
    IO.eprintln s!"{← timeStamp} {CommandLine.logLine entry}"
  help := IO.print usage
  misuse := IO.eprint usage
  note _ := pure ()
  pause seconds := IO.sleep ((milliseconds? seconds).getD 2600000000).toUInt32

/-- The environment variables that hold settings. -/
def settingVariables : IO (List (String × String)) := do
  let names := Settings.fields.map fun f => (Settings.variableStart ++ f.name).toUpper
  let found ← names.mapM fun name => do
    pure ((← IO.getEnv name).map (name, ·))
  pure (found.filterMap id)

/-- A patience that outlasts the machine. -/
def patience : Patience := { passes := Nat.pow 2 62, depth := Nat.pow 2 62 }

/-- Runs the command and answers its exit code. -/
def run (arguments : List String) : IO UInt32 := do
  let transport := network (← IO.mkRef 0) (← IO.mkRef [])
  let result ←
    CommandLine.run terminal transport patience (← settingVariables) arguments
  match result.ending with
  | .exit code => pure code.toUInt32
  | .escaped fault closing =>
    IO.eprintln s!"{fault.kind.label}: {fault.message}"
    for report in fault.report? do
      for violation in report.violations do
        IO.eprintln s!"  {violation.line}"
    for closing in closing do
      IO.eprintln closing.closeNote
    pure 1
  | .unfinished => pure 1

end LoadDispatch.Program

/-- The command `distributed-load`. -/
def main (arguments : List String) : IO UInt32 :=
  LoadDispatch.Program.run arguments
