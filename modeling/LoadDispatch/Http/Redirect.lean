import LoadDispatch.Http.Message

/-!
# Responses that send a client on

A response may name the place where the answer is to be had instead.  No client here goes there:
such a response is a failure like any other.  But the place is read, and a response that names one
that is no URL is refused, as if it had never come.
-/

namespace LoadDispatch.Http

/-- The codes that send a client on, if the response names a place. -/
def redirectCodes : List Nat := [301, 302, 303, 307, 308]

/-- The place that a response sends the client to, as it is written. -/
def Response.location? (r : Response) : Option String :=
  if redirectCodes.contains r.code then r.header? "location" else none

/-- Refuses a place that is no URL.  One with a scheme and no host is on the host of the request. -/
def checkLocation (request : Request) (location : String) : Except Fault Unit := do
  let url ← (Url.parse? location).mapError .badLocation
  let host ← url.spokenHost.mapError .hostName
  if url.scheme ≠ "" ∧ host = "" then
    let own ← request.url.spokenHost.mapError .hostName
    let _ ← (url.withHost own).mapError .url

/-- Refuses a response that sends the client to what is no URL. -/
def checkRedirect (request : Request) (response : Response) : Except Fault Unit :=
  match response.location? with
  | none => .ok ()
  | some location => checkLocation request location

end LoadDispatch.Http
