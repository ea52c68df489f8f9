import LoadDispatch.Http.Endpoint
import LoadDispatch.Http.Redirect

/-!
# Clients

A client is an address and a place at a transport.  It sends a request to a target, which is the
address with a path behind it, as a text.  The target is read as a URL first; a target that is none
is a fault before anything is sent.  A target without scheme cannot be told from a path: the
request goes out under the empty base, and it is the response that is refused.
-/

namespace LoadDispatch.Http

/-- A client of some service. -/
structure Client where
  /-- The address, with no slash at its end. -/
  base : String
  /-- The seconds to wait for each step of an exchange, if there is a limit. -/
  timeout : Option Float
  /-- The number of the client at its transport. -/
  number : Nat

/-- Whether a request got no response. -/
def isTransportFault (f : Fault) : Bool :=
  match f.kind with
  | .transport _ => true
  | _ => false

/-- A parameter of a query. -/
structure Parameter where
  /-- The name. -/
  name : String
  /-- The value. -/
  value : String

/-- The URL of a target, with another query if a parameter is given. -/
def targetUrl (target : String) (parameter : Option Parameter) : Except Fault Url :=
  match (Url.parse? target).bind Url.absolute with
  | .error refusal => .error (.url refusal)
  | .ok url =>
    match parameter with
    | none => .ok url
    | some p =>
      match Text.utf8Refusal? p.value with
      | some text => .error (.unencodable text)
      | none => (url.withQuery (p.name ++ "=" ++ Url.formValue p.value)).mapError .url

/-- What is left to check when a response is there. -/
def acceptResponse (request : Request) (response : Response) : Except Fault Response :=
  if request.url.scheme = "" then .error (.urlType request.url.text)
  else (checkRedirect request response).map fun _ => response

namespace Client

variable {m : Type → Type} [Monad m]

/-- Opens a client for the address of a service. -/
def open? (transport : Transport m) (address : String) (kind : FaultKind) (name : String)
    (timeout : Option Float) : m (Except Fault Client) :=
  match endpoint address kind name with
  | .error fault => pure (.error fault)
  | .ok base => do
    let number ← transport.connect
    pure (.ok { base, timeout, number })

/-- Sends a request and waits for its response; answers both. -/
def exchange (transport : Transport m) (c : Client) (method target : String)
    (parameter : Option Parameter) (body : Option String) :
    m (Except Fault (Request × Response)) :=
  match (targetUrl target parameter).bind (Request.make? method · body c.timeout) with
  | .error fault => pure (.error fault)
  | .ok request => do
    match ← transport.send c.number request with
    | .error fault => pure (.error fault)
    | .ok response => pure ((acceptResponse request response).map (request, ·))

/-- Closes a client. -/
def close (transport : Transport m) (c : Client) : m Unit :=
  transport.close c.number

end Client

end LoadDispatch.Http
