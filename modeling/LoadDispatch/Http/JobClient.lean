import LoadDispatch.Environment
import LoadDispatch.Http.Client
import LoadDispatch.Http.Detail
import LoadDispatch.Json.Printer
import LoadDispatch.Schema.Payload

/-!
# The job service over HTTP

One session with the job service is one client.  A job is submitted by a `POST` of its payload and
its status asked for by a `GET`; both are answered with a JSON object.

`interpretSubmission` and `interpretStatus` say what an answer means, in both cases by the same
steps: the code has to tell of success, the body has to be JSON, an object, and fit its schema.  An
answer that fails one of them is a fault of the job service.  Two faults of an answer are not: a
status word that names no status, and a failure whose body cannot be decoded.
-/

namespace LoadDispatch.Http

/-- A client of the job service. -/
structure JobClient extends Client

/-- The object in the body of a successful response. -/
def interpretObject (request : Request) (response : Response) : Except Fault Json :=
  if response.isSuccess then
    match response.json? response.room.success with
    | .error fault => .error fault
    | .ok none => .error (.jobBody request.line)
    | .ok (some (.obj members)) => .ok (.obj members)
    | .ok (some _) => .error (.jobBodyKind request.line)
  else
    match response.detail with
    | .ok detail => .error (.jobResponse request.line response.code detail)
    | .error fault => .error fault

/-- What the answer to a submission means: the number of the job. -/
def interpretSubmission (request : Request) (response : Response) : Except Fault Int :=
  match interpretObject request response with
  | .error fault => .error fault
  | .ok body =>
    match Schema.SubmittedPayload.read body with
    | .ok payload => .ok payload.jobId
    | .error report => .error (.jobSubmission report)

/-- What the answer to a status query means. -/
def interpretStatus (request : Request) (response : Response) : Except Fault JobStatus :=
  match interpretObject request response with
  | .error fault => .error fault
  | .ok body =>
    match Schema.JobStatusPayload.read body with
    | .ok payload => JobStatus.parse payload.status
    | .error report => .error (.jobStatus report)

/-- The body of a submission. -/
def submissionBody (payload : Schema.LoadJobPayload) : String :=
  (Schema.SubmissionPayload.write true { job := payload }).compact

namespace JobClient

/-- Where jobs are submitted. -/
def submissionTarget (c : JobClient) : String :=
  c.base ++ "/api/v1/jobs/run"

/-- Where the status of a job is asked for. -/
def statusTarget (c : JobClient) (job : Int) : String :=
  s!"{c.base}/api/v1/jobs/{job}/status"

variable {m : Type → Type} [Monad m]

/-- Sends a request.  A request that got no response is a fault of the job service. -/
def send (transport : Transport m) (c : JobClient) (method target : String)
    (body : Option String) : m (Except Fault (Request × Response)) := do
  match ← c.exchange transport method target none body with
  | .ok answer => pure (.ok answer)
  | .error fault =>
    if isTransportFault fault then
      pure (.error (.jobRequest { method, url := target } fault.message))
    else pure (.error fault)

/-- Submits a job; answers its number. -/
def submit (transport : Transport m) (c : JobClient) (config : JobConfig) :
    m (Except Fault Int) := do
  match Schema.LoadJobPayload.ofConfig config with
  | .error report => pure (.error (.refused report))
  | .ok payload => do
    match ← c.send transport "POST" c.submissionTarget (some (submissionBody payload)) with
    | .error fault => pure (.error fault)
    | .ok (request, response) => pure (interpretSubmission request response)

/-- Asks for the status of a job. -/
def poll (transport : Transport m) (c : JobClient) (job : Int) : m (Except Fault JobStatus) := do
  match ← c.send transport "GET" (c.statusTarget job) none with
  | .error fault => pure (.error fault)
  | .ok (request, response) => pure (interpretStatus request response)

/-- Opens a client for an address. -/
def open? (transport : Transport m) (address : String) (timeout : Option Float) :
    m (Except Fault JobClient) := do
  let opened ← Client.open? transport address .jobService "Job service" timeout
  pure (opened.map JobClient.mk)

end JobClient

/-- The job service at an address, a client for every session.  At an address that is refused no
session is ever opened. -/
def jobService {m : Type → Type} [Monad m] (transport : Transport m) (address : String)
    (timeout : Option Float) : JobService m :=
  match endpoint address .jobService "Job service" with
  | .error fault => .refusing fault
  | .ok base =>
    let client (session : Session) : JobClient := ⟨{ base, timeout, number := session.number }⟩
    { connect := do
        let opened ← JobClient.open? transport address timeout
        pure (opened.map fun c => ⟨c.number⟩)
      submit := fun session config => do
        let answer ← (client session).submit transport config
        pure (answer.map some)
      poll := fun session job => do
        let answer ← (client session).poll transport job
        pure (answer.map .known)
      close := fun session => do
        (client session).close transport
        pure (.ok ()) }

end LoadDispatch.Http
