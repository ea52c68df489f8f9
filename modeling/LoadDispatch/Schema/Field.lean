import LoadDispatch.Schema.Scalar

/-!
# Fields and objects

A schema for an object is a list of fields.  A field has a name, and sometimes another one under
which the services send it; an object may use either, and the services' name counts if it uses
both.  Members that are no field's are ignored.

A reading collects the violations of all fields, in the order of the fields, and succeeds if there
are none.  `Reading.pair` is how two fields come together.
-/

namespace LoadDispatch.Schema

/-- The result of reading a value: the value read, or what is wrong with it. -/
abbrev Reading (α : Type) := Except (List Violation) α

namespace Reading

variable {α β : Type}

/-- The reading of a scalar at its own place. -/
def ofScalar : Except Rule α → Reading α
  | .ok a => .ok a
  | .error rule => .error [⟨[], rule⟩]

/-- Two readings, with the violations of both. -/
def pair : Reading α → Reading β → Reading (α × β)
  | .ok a, .ok b => .ok (a, b)
  | .ok _, .error right => .error right
  | .error left, .ok _ => .error left
  | .error left, .error right => .error (left ++ right)

/-- A reading of what is one step inside. -/
def under (step : Step) : Reading α → Reading α
  | .ok a => .ok a
  | .error violations => .error (violations.map (.under step))

/-- A reading as the answer of a schema. -/
def titled (title : String) : Reading α → Except Report α
  | .ok a => .ok a
  | .error violations => .error { title, violations }

/-- Two readings succeed together exactly if both do. -/
theorem pair_eq_ok_iff {x : Reading α} {y : Reading β} {a : α} {b : β} :
    pair x y = .ok (a, b) ↔ x = .ok a ∧ y = .ok b := by
  cases x <;> cases y <;> simp [pair]

end Reading

/-- A field of an object. -/
structure Field where
  /-- Its name. -/
  name : String
  /-- The name under which the services send it, if that is another one. -/
  wireName : Option String := none
deriving DecidableEq, Repr

namespace Field

variable {α : Type}

/-- The key of the field, as the services send it or as it is named here. -/
def key (f : Field) (onWire : Bool) : String :=
  if onWire then f.wireName.getD f.name else f.name

/-- The member of an object that belongs to the field, under the services' name first. -/
def find? (f : Field) (members : List (String × Json)) : Option (String × Json) :=
  match f.wireName.bind fun key => (Json.member? members key).map (key, ·) with
  | some found => some found
  | none => (Json.member? members f.name).map (f.name, ·)

/-- Reads a field that has to be there. -/
def required (f : Field) (read : Json → Reading α) (members : List (String × Json)) : Reading α :=
  match f.find? members with
  | some (key, value) => (read value).under (.member key)
  | none => .error [⟨[.member (f.key true)], .required⟩]

/-- Reads a field that may be missing. -/
def optional (f : Field) (default : α) (read : Json → Reading α) (members : List (String × Json)) :
    Reading α :=
  match f.find? members with
  | some (key, value) => (read value).under (.member key)
  | none => .ok default

end Field

/-- Reads a value that has to be an object. -/
def readObject {α : Type} (read : List (String × Json) → Reading α) : Json → Reading α
  | .obj members => read members
  | _ => .error [⟨[], .object⟩]

/-- Reads the items of an array, each at its index, with the violations of all. -/
def readItems {α : Type} (read : Json → Reading α) : Nat → List Json → Reading (List α)
  | _, [] => .ok []
  | index, j :: rest =>
    match ((read j).under (.item index)).pair (readItems read (index + 1) rest) with
    | .ok (a, as) => .ok (a :: as)
    | .error violations => .error violations

/-- Reads a value that has to be an array. -/
def readArray {α : Type} (read : Json → Reading α) : Json → Reading (List α)
  | .arr items => readItems read 0 items
  | _ => .error [⟨[], .array⟩]

end LoadDispatch.Schema
