import LoadDispatch.Url.Name.Label

/-!
# International names

The name of a host may be written with letters beyond ASCII.  It is sent in ASCII all the same: the
name is cut into labels, and a label with other letters becomes `xn--` and its Punycode form.
`writeName?` makes the form that is sent, and `readName?` reads it again; both refuse a name with a
label that `checkLabel` refuses.
-/

namespace LoadDispatch.Url

/-- The full stops that end a label. -/
def labelEnds : List Char := ['.', '\u3002', '\uFF0E', '\uFF61']

/-- The labels of a name, and whether a full stop ends it. -/
def labels? (name : List Char) : Except NameFault (List (List Char) × Bool) :=
  let labels := List.splitOn '.' (name.map fun c => if labelEnds.contains c then '.' else c)
  if nameLimit < name.length then .error .nameTooLong
  else if labels = [[]] then .error .noLabels
  else if labels.getLast? = some [] then .ok (labels.dropLast, true)
  else .ok (labels, false)

/-- Labels with full stops between them, and perhaps one at the end. -/
def joinLabels (labels : List (List Char)) (stopped : Bool) : List Char :=
  ['.'].intercalate (if stopped then labels ++ [[]] else labels)

/-- A name in lower case in the form that is sent. -/
def writeName? (name : List Char) : Except NameFault (List Char) := do
  let (labels, stopped) ← labels? name
  let written := joinLabels (← labels.mapM writeLabel?) stopped
  if (if stopped then nameLimit else nameLimit - 1) < written.length then throw .nameTooLong
  pure written

/-- The name that a name in ASCII stands for. -/
def readName? (name : List Char) : Except NameFault (List Char) := do
  let (labels, stopped) ← labels? name
  pure (joinLabels (← labels.mapM readLabel?) stopped)

end LoadDispatch.Url
