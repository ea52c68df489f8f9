import LoadDispatch.Json.Printer
import LoadDispatch.Rehearsal.Services

/-!
# A scripted server

A server that stands for both services of a load over HTTP, and one that answers any request with
the next of a list of answers.  The first one goes by the end of the URL's path: it finds the
metadata of a path by the query, and the file of a job by the number in the URL.
-/

namespace LoadDispatch.Rehearsal

/-- A scripted answer to a request. -/
abbrev Answer : Type := Except Fault Http.Response

/-- A response with a JSON body. -/
def jsonResponse (code : Nat) (body : Json) : Http.Response where
  code := code
  body := Text.utf8Bytes body.compact
  room := .usual

/-- The bytes of a value in a query. -/
def formBytes : List Char → List UInt8
  | '%' :: a :: b :: rest =>
    (16 * (Text.hexValue? a).getD 0 + (Text.hexValue? b).getD 0).toUInt8 :: formBytes rest
  | '+' :: rest => 0x20 :: formBytes rest
  | c :: rest => String.utf8EncodeChar c ++ formBytes rest
  | [] => []

/-- The path that a query names. -/
def queriedPath (query : String) : String :=
  let value := query.toList.drop "path=".length
  Text.Encoding.utf8.lenient (formBytes value)

/-- Where a request goes. -/
inductive Route where
  | stat (path : String)
  | list (path : String)
  | submit (path : String)
  | poll (number : String)
  | unknown
deriving DecidableEq, Repr

/-- The path of the file in the body of a submission. -/
def submittedPath (body : String) : String :=
  match ((Json.read? body).bind (·.get? "jobConfig")).bind (·.get? "filePath") with
  | some (.str path) => path
  | _ => ""

/-- The route of a request, by the last segments of its path. -/
def route (request : Http.Request) : Route :=
  match (List.splitOn '/' request.url.path.toList).reverse.map String.ofList with
  | "status" :: "paths" :: _ => .stat (queriedPath (request.url.query.getD ""))
  | "children" :: "paths" :: _ => .list (queriedPath (request.url.query.getD ""))
  | "run" :: "jobs" :: _ => .submit (submittedPath (request.body.getD ""))
  | "status" :: number :: "jobs" :: _ => .poll number
  | _ => .unknown

/-- A scripted answer to a status query over HTTP. -/
inductive ServerStep where
  /-- A status, in a proper answer. -/
  | status (text : String)
  /-- Any answer. -/
  | answer (answer : Answer)

/-- A scripted answer to a submission over HTTP. -/
structure ServerSubmission where
  /-- The answer. -/
  answer : Answer
  /-- The number that the answer gives, by which the server knows the file again. -/
  number : Option String := none

/-- The number in the body of an answer to a submission, if the body is an object. -/
def bodyNumber? : Json → Option String
  | .obj members => some ((Json.member? members "jobId").getD .null).display
  | _ => none

/-- A server that follows a script. -/
structure Server where
  /-- The answers to questions for metadata, by path. -/
  stats : List (String × Answer) := []
  /-- The answers to questions for listings, by path. -/
  listings : List (String × Answer) := []
  /-- The answers to submissions, by file. -/
  submissions : Script String ServerSubmission := []
  /-- The answers to status queries, by file. -/
  polls : Script String ServerStep := []
  /-- The number of status queries that are answered. -/
  pollLimit : Nat := 200
  /-- The number of status queries so far. -/
  pollsMade : Nat := 0
  /-- The greatest number given out so far. -/
  lastNumber : Int := 0
  /-- The files of the numbers, latest first. -/
  owners : List (String × String) := []

namespace Server

/-- The answer about a path that the server does not know. -/
def absent : Answer :=
  .ok (jsonResponse 404 (.obj [("detail", .str "no such path")]))

/-- Notes the file of a number. -/
def own (path : String) (number : Option String) (s : Server) : Server :=
  match number with
  | some number => { s with owners := (number, path) :: s.owners }
  | none => s

/-- Answers a submission. -/
def submit (path : String) (s : Server) : Answer × Server :=
  let (step, submissions) := s.submissions.take path
  let s := { s with submissions }
  match step with
  | some submission => (submission.answer, s.own path submission.number)
  | none =>
    let n := s.lastNumber + 1
    let body : Json := .obj [("jobId", .int n)]
    (.ok (jsonResponse 200 body), { s with lastNumber := n }.own path (bodyNumber? body))

/-- A number as it stands in a URL. -/
def numberValue (number : String) : Json :=
  match Decimal.Numeral.canonical? number.toList with
  | some n => .int n
  | none => .str number

/-- Answers a status query. -/
def poll (number : String) (s : Server) : Answer × Server :=
  let s := { s with pollsMade := s.pollsMade + 1 }
  if s.pollLimit < s.pollsMade then (.error pollLimitFault, s)
  else
    let (step, polls) := match s.owners.lookup number with
      | some path => s.polls.takeRepeating path
      | none => (none, s.polls)
    let s := { s with polls }
    let proper (text : String) : Answer :=
      .ok (jsonResponse 200 (.obj [("jobId", numberValue number), ("status", .str text)]))
    match step with
    | some (.status text) => (proper text, s)
    | some (.answer answer) => (answer, s)
    | none => (proper JobStatus.completed.word, s)

/-- The web of a server. -/
def web : Web Server where
  respond _ request s :=
    match route request with
    | .stat path => ((s.stats.lookup path).getD absent, s)
    | .list path => ((s.listings.lookup path).getD absent, s)
    | .submit path => s.submit path
    | .poll number => s.poll number
    | .unknown => (absent, s)

end Server

/-- A web that answers every request with the next of a list of answers. -/
def queueWeb : Web (List Answer) where
  respond _ _
    | [] => (.error (.outside (.transport .connect) "no scripted response"), [])
    | answer :: rest => (answer, rest)

/-- The web of a server that is one part of the world. -/
def Web.ofPart {ω σ : Type} (w : Web σ) (get : ω → σ) (set : σ → ω → ω) : Web ω where
  respond client request s :=
    let (answer, part) := w.respond client request (get s)
    (answer, set part s)

/-- A server beside a scripted job service: the storage system is reached over HTTP, the job
service is not. -/
structure Stage where
  /-- The server. -/
  server : Server := {}
  /-- The services. -/
  services : Services := {}

/-- The web of a stage. -/
def Stage.web : Web Stage :=
  Web.ofPart Server.web Stage.server fun server s => { s with server }

/-- The world of a stage. -/
def Stage.world : World Stage :=
  let part {α : Type} (ask : Services → α × Services) (s : Stage) : α × Stage :=
    let (answer, services) := ask s.services
    (answer, { s with services })
  { connect := fun session => part (Services.world.connect session)
    submit := fun session config => part (Services.world.submit session config)
    poll := fun session job => part (Services.world.poll session job)
    close := fun session => part (Services.world.close session)
    stat := fun path => part (Services.world.stat path)
    list := fun path => part (Services.world.list path) }

end LoadDispatch.Rehearsal
