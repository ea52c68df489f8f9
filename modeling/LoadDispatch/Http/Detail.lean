import LoadDispatch.Http.Message
import LoadDispatch.Json.Display

/-!
# The detail of a failure

A service that refuses a request says why, if it is kind, in the body: in JSON under `detail` or
`message`, or in plain text.
-/

namespace LoadDispatch.Http

/-- The members of an error body that hold the reason, the more telling one first. -/
def detailKeys : List String := ["detail", "message"]

/-- The text of a member, if it has one. -/
def textMember? (members : List (String × Json)) (key : String) : Option String :=
  match Json.member? members key with
  | some (.str s) => some s
  | _ => none

/-- The reason that a JSON value gives: the first text among the members that hold one, or the
whole value. -/
def jsonDetail (j : Json) : String :=
  match j with
  | .obj members => (detailKeys.findSome? (textMember? members)).getD j.display
  | _ => j.display

/-- The reason that a text gives: the text itself, unless it is blank. -/
def textDetail (text : String) : String :=
  if Text.trim text = "" then "<no response body>" else Text.trim text

/-- The reason that a response gives, if its body has a text. -/
def Response.detail (r : Response) : Except Fault String :=
  match r.json? r.room.failure with
  | .error fault => .error fault
  | .ok (some j) => .ok (jsonDetail j)
  | .ok none => r.text.map textDetail

end LoadDispatch.Http
