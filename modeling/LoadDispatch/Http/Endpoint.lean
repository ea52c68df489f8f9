import LoadDispatch.Fault
import LoadDispatch.Text.Blank

/-!
# Endpoints

The address of a service, as a person writes it: with blanks around it and slashes at its end.
Paths are appended to what is left of it.
-/

namespace LoadDispatch.Http

/-- An address without the blanks around it and then without the slashes at its end; refused if
nothing is left.  `name` and `kind` say whose address it is. -/
def endpoint (address : String) (kind : FaultKind) (name : String) : Except Fault String :=
  let trimmed := Text.trimEnd (· == '/') (Text.trim address)
  if trimmed = "" then .error (.emptyEndpoint name kind) else .ok trimmed

end LoadDispatch.Http
