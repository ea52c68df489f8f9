import LoadDispatch.Json.Printer
import LoadDispatch.Text.Quoted

/-!
# JSON values in a message

Inside a message a value is shown for a person to read: commas and colons are followed by a space,
`null` is shown as `None`, truth values are capitalised, and a string is quoted unless it is the
whole of what is shown.
-/

namespace LoadDispatch.Json

/-- In a message, infinity and what is not a number are shown in lower case. -/
def messageLayout : Decimal.Layout :=
  { floatLayout with infinity := "inf", notANumber := "nan" }

mutual

/-- A value as part of another one. -/
def displayInner : Json → String
  | .null => "None"
  | .bool true => "True"
  | .bool false => "False"
  | .int n => String.ofList (Text.intDigits n)
  | .float x => messageLayout.text x
  | .str s => Text.quoted s
  | .arr js => "[" ++ ", ".intercalate (displayItems js) ++ "]"
  | .obj ms => "\x7b" ++ ", ".intercalate (displayMembers ms) ++ "\x7d"

/-- The items of an array. -/
def displayItems : List Json → List String
  | [] => []
  | j :: js => displayInner j :: displayItems js

/-- The members of an object. -/
def displayMembers : List (String × Json) → List String
  | [] => []
  | (key, j) :: ms => (Text.quoted key ++ ": " ++ displayInner j) :: displayMembers ms

end

/-- A value as it is shown in a message. -/
def display : Json → String
  | .str s => s
  | j => j.displayInner

end LoadDispatch.Json
