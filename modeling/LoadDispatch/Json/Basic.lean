/-!
# JSON values

A JSON value as this library reads and writes it.  Three things set the type apart from a plain
tree.

* Integers and floats are two kinds: `1` and `1.0` are different values, and an integer has any
  number of digits.
* The members of an object stand in the order of their first appearance, so a value prints as it
  was read.
* The numbers include infinity and what is not a number, which the services send.
-/

namespace LoadDispatch

/-- A JSON value; the members of an object in order. -/
inductive Json where
  | null
  | bool (value : Bool)
  | int (value : Int)
  | float (value : Float)
  | str (value : String)
  | arr (items : List Json)
  | obj (members : List (String × Json))
deriving Inhabited

namespace Json

/-- The value of the member `key` among `members`. -/
def member? (members : List (String × Json)) (key : String) : Option Json :=
  members.lookup key

/-- The value of a member of an object; `none` if there is no such member or no object. -/
def get? (j : Json) (key : String) : Option Json :=
  match j with
  | .obj members => member? members key
  | _ => none

/-- Adds a member behind the others, or replaces the value of one of the same key in its place. -/
def setMember (members : List (String × Json)) (key : String) (value : Json) :
    List (String × Json) :=
  match members with
  | [] => [(key, value)]
  | (k, v) :: rest => if k = key then (k, value) :: rest else (k, v) :: setMember rest key value

end Json

end LoadDispatch
