import LoadDispatch.Fault
import LoadDispatch.Http.ContentEncoding
import LoadDispatch.Http.ContentType
import LoadDispatch.Json.Reader

/-!
# Requests and responses

What is sent over a connection and what comes back.  A response has bytes; they are read in two
ways, as JSON (`Response.json?`, in the encoding their first bytes show) and as text
(`Response.text`, in the encoding the headers name).

JSON that is nested too deep cannot be read, and how deep that is does not depend on the message.
It is a matter of the moment, so every response comes with a `Room` of its own for whoever reads it.
-/

namespace LoadDispatch.Http

/-- A request. -/
structure Request where
  /-- The method, in upper case. -/
  method : String
  /-- Where it goes. -/
  url : Url
  /-- What it carries. -/
  body : Option String := none
  /-- The seconds to wait for each step of the exchange, if there is a limit. -/
  timeout : Option Float

/-- Makes a request.  Its body needs bytes, its host a name that can be spoken, and host and port
are sent as ASCII. -/
def Request.make? (method : String) (url : Url) (body : Option String) (timeout : Option Float) :
    Except Fault Request :=
  match body.bind Text.utf8Refusal? with
  | some text => .error (.unencodable text)
  | none =>
    match url.spokenHost with
    | .error fault => .error (.hostName fault)
    | .ok _ =>
      match Text.asciiRefusal? url.hostAndPort with
      | some text => .error (.unencodable text)
      | none => .ok { method, url, body, timeout }

/-- How a message names a request. -/
def Request.line (r : Request) : RequestLine where
  method := r.method
  url := r.url.text

/-- How deep the JSON of a body may be nested for those who read it.  This is what is left of the
stack where the body is read, so it is less the more calls are under way, and the two reads differ
by the calls that lead to them. -/
structure Room where
  /-- For reading the body of a success. -/
  success : Nat
  /-- For reading the reason out of the body of a failure. -/
  failure : Nat
deriving DecidableEq, Repr

/-- The room where a stack has place for a thousand calls and hardly any are under way. -/
def Room.usual : Room where
  success := 981
  failure := 978

/-- A response. -/
structure Response where
  /-- The status code. -/
  code : Nat
  /-- The headers. -/
  headers : List (String × String) := []
  /-- The body. -/
  body : List UInt8 := []
  /-- The room for its readers, which is no part of the message. -/
  room : Room
deriving DecidableEq, Repr

namespace Response

/-- Whether the code says that the request succeeded. -/
def isSuccess (r : Response) : Bool :=
  200 ≤ r.code && r.code < 300

/-- The body as JSON, if it is a JSON text; it may be nested `depth` times. -/
def json? (r : Response) (depth : Nat) : Except Fault (Option Json) :=
  match (Text.Encoding.ofJson r.body).strict? r.body with
  | none => .ok none
  | some cs =>
    match Json.readWithin depth cs with
    | .ok j => .ok (some j)
    | .error .malformed => .ok none
    | .error (.tooDeep inObject) => .error (.tooDeep inObject)

/-- The value of a header.  If there are several of that name, they are put together. -/
def header? (r : Response) (name : String) : Option String :=
  match r.headers.filter fun h => h.1.toLower == name with
  | [] => none
  | found => some (", ".intercalate (found.map Prod.snd))

/-- Makes a response out of what came over a connection.  Headers are ASCII, and the body comes
compressed as they say. -/
def make? (code : Nat) (headers : List (String × String)) (body : List UInt8)
    (room : Room := .usual) : Except Fault Response :=
  match headers.findSome? fun h => Text.asciiRefusal? h.1 <|> Text.asciiRefusal? h.2 with
  | some text => .error (.unencodable text)
  | none =>
    let sent : Response := { code, headers, body, room }
    let encodings :=
      ((sent.header? "content-encoding").map ContentEncoding.ofHeader).getD []
    match ContentEncoding.decodeAll encodings body with
    | .error defect => .error (.compressed defect)
    | .ok body => .ok { sent with body }

/-- The encoding of the body's text: the one the content type names, if it is known, else UTF-8. -/
def charset (r : Response) : Except Fault Text.Charset :=
  match r.header? "content-type" with
  | none => .ok (Text.Charset.unicode .utf8)
  | some contentType =>
    match ContentType.charset? contentType with
    | .error order => .error (.unordered order.laterIsBare)
    | .ok charset => .ok (charset.getD (Text.Charset.unicode .utf8))

/-- The body as text.  What cannot be read in it is replaced as far as its encoding goes. -/
def text (r : Response) : Except Fault String :=
  if r.body = [] then .ok ""
  else
    match r.charset with
    | .error fault => .error fault
    | .ok charset =>
      match charset r.body with
      | .error why => .error (.unreadable why)
      | .ok cs => .ok (String.ofList cs)

end Response

/-- Connections to a server.  A transport numbers its clients from 1; each is closed once, and a
request on a closed one is refused. -/
structure Transport (m : Type → Type) where
  /-- Opens a client. -/
  connect : m Nat
  /-- Sends a request and waits for the response. -/
  send : Nat → Request → m (Except Fault Response)
  /-- Closes a client. -/
  close : Nat → m Unit

end LoadDispatch.Http
