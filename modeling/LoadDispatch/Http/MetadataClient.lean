import LoadDispatch.Environment
import LoadDispatch.Http.Client
import LoadDispatch.Http.Detail
import LoadDispatch.Schema.Payload

/-!
# The storage system over HTTP

The metadata of a path and the listing of a folder are asked for by a `GET` with the path in the
query.  The code of the answer tells a path that does not exist and a path that may not be read
from all other failures; the body of a successful answer has to be JSON and fit its schema.  A
listing is taken as a whole or not at all.
-/

namespace LoadDispatch.Http

/-- A client of the storage system. -/
structure MetadataClient extends Client

/-- What a failed response says of a path. -/
def pathFailure (path : String) (request : Request) (response : Response) : Fault :=
  match response.detail with
  | .error fault => fault
  | .ok detail =>
    if response.code = 404 then .pathAbsent path detail
    else if response.code = 401 ∨ response.code = 403 then .pathDenied path detail
    else .pathResponse request.line response.code detail

/-- The JSON in the body of a successful response. -/
def interpretPath (target path : String) (request : Request) (response : Response) :
    Except Fault Json :=
  if response.isSuccess then
    match response.json? response.room.success with
    | .error fault => .error fault
    | .ok (some body) => .ok body
    | .ok none => .error (.pathBody target path)
  else .error (pathFailure path request response)

/-- What the answer to a question for metadata means. -/
def interpretStat (target path : String) (request : Request) (response : Response) :
    Except Fault FileStatus :=
  match interpretPath target path request response with
  | .error fault => .error fault
  | .ok body =>
    match Schema.FileStatusPayload.read body with
    | .ok status => .ok status
    | .error report => .error (.pathStatus path report)

/-- What the answer to a question for a listing means. -/
def interpretListing (target path : String) (request : Request) (response : Response) :
    Except Fault (List FileStatus) :=
  match interpretPath target path request response with
  | .error fault => .error fault
  | .ok body =>
    match Schema.FileStatusPayload.readList body with
    | .ok statuses => .ok statuses
    | .error report => .error (.pathListing path report)

namespace MetadataClient

/-- Where the metadata of a path is asked for. -/
def statTarget (c : MetadataClient) : String :=
  c.base ++ "/api/v1/paths/status"

/-- Where the listing of a folder is asked for. -/
def listTarget (c : MetadataClient) : String :=
  c.base ++ "/api/v1/paths/children"

/-- The parameter that names a path. -/
def pathParameter (path : String) : Parameter :=
  { name := "path", value := path }

variable {m : Type → Type} [Monad m]

/-- Sends a question about a path.  A request that got no response is a fault of the metadata. -/
def ask (transport : Transport m) (c : MetadataClient) (target path : String) :
    m (Except Fault (Request × Response)) := do
  match ← c.exchange transport "GET" target (some (pathParameter path)) none with
  | .ok answer => pure (.ok answer)
  | .error fault =>
    if isTransportFault fault then pure (.error (.pathRequest target path fault.message))
    else pure (.error fault)

/-- The metadata of a path. -/
def stat (transport : Transport m) (c : MetadataClient) (path : String) :
    m (Except Fault FileStatus) := do
  match ← c.ask transport c.statTarget path with
  | .error fault => pure (.error fault)
  | .ok (request, response) => pure (interpretStat c.statTarget path request response)

/-- The metadata of what is in a folder. -/
def list (transport : Transport m) (c : MetadataClient) (path : String) :
    m (Except Fault (List FileStatus)) := do
  match ← c.ask transport c.listTarget path with
  | .error fault => pure (.error fault)
  | .ok (request, response) => pure (interpretListing c.listTarget path request response)

/-- Opens a client for an address. -/
def open? (transport : Transport m) (address : String) (timeout : Option Float) :
    m (Except Fault MetadataClient) := do
  let opened ← Client.open? transport address .metadata "Metadata" timeout
  pure (opened.map MetadataClient.mk)

/-- The storage system behind a client. -/
def service (transport : Transport m) (c : MetadataClient) : MetadataService m where
  stat := c.stat transport
  list := c.list transport

end MetadataClient

end LoadDispatch.Http
