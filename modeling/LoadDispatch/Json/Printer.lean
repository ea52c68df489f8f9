import LoadDispatch.Decimal.Shortest
import LoadDispatch.Json.Basic

/-!
# Writing JSON

The compact form: no blanks, and every character as itself except the quote, the backslash and
the control characters.  This is the form of a request body.
-/

namespace LoadDispatch.Json

/-- Floats are written positionally from `10^-4` up to `10^16`, with an exponent of two digits at
least outside of that range. -/
def floatLayout : Decimal.Layout where
  positionalFrom := -4
  positionalBelow := 16
  exponentWidth := 2
  infinity := "Infinity"
  notANumber := "NaN"

/-- A character inside a string. -/
def escapeChar (c : Char) : List Char :=
  if c = '"' then ['\\', '"']
  else if c = '\\' then ['\\', '\\']
  else if c = '\n' then ['\\', 'n']
  else if c = '\r' then ['\\', 'r']
  else if c = '\t' then ['\\', 't']
  else if c = '\x08' then ['\\', 'b']
  else if c = '\x0c' then ['\\', 'f']
  else if c.toNat < 0x20 then '\\' :: 'u' :: Text.hexField 4 c.toNat
  else [c]

/-- A string with its quotes. -/
def writeString (s : String) : List Char :=
  '"' :: s.toList.flatMap escapeChar ++ ['"']

mutual

/-- A value in compact form. -/
def write : Json → List Char
  | .null => "null".toList
  | .bool true => "true".toList
  | .bool false => "false".toList
  | .int n => Text.intDigits n
  | .float x => (floatLayout.text x).toList
  | .str s => writeString s
  | .arr [] => ['[', ']']
  | .arr (j :: js) => '[' :: write j ++ writeItems js
  | .obj [] => ['{', '}']
  | .obj ((key, j) :: ms) => '{' :: writeString key ++ ':' :: write j ++ writeMembers ms

/-- The items behind the first, each with a comma in front, and the closing bracket. -/
def writeItems : List Json → List Char
  | [] => [']']
  | j :: js => ',' :: write j ++ writeItems js

/-- The members behind the first, each with a comma in front, and the closing brace. -/
def writeMembers : List (String × Json) → List Char
  | [] => ['}']
  | (key, j) :: ms => ',' :: writeString key ++ ':' :: write j ++ writeMembers ms

end

/-- The compact text of a value. -/
def compact (j : Json) : String :=
  String.ofList j.write

end LoadDispatch.Json
