/-!
# Lines of a text

A line ends at a line feed, a carriage return, the pair of both, or one of the other line
boundaries of Unicode.  The last line needs no end, and a text that ends in a boundary has no
empty line after it.
-/

namespace LoadDispatch.Text

/-- A single character that ends a line. -/
def endsLine (c : Char) : Bool :=
  (0x0A ≤ c.toNat && c.toNat ≤ 0x0D) || (0x1C ≤ c.toNat && c.toNat ≤ 0x1E) || c.toNat == 0x85 ||
  c.toNat == 0x2028 || c.toNat == 0x2029

/-- The lines of a text, given the characters of the open line in reverse order. -/
def linesFrom : List Char → List Char → List (List Char)
  | [], [] => []
  | current, [] => [current.reverse]
  | current, '\r' :: '\n' :: rest => current.reverse :: linesFrom [] rest
  | current, c :: rest =>
    if endsLine c then current.reverse :: linesFrom [] rest else linesFrom (c :: current) rest

/-- The lines of `s`, without their ends. -/
def lines (s : String) : List String :=
  (linesFrom [] s.toList).map String.ofList

end LoadDispatch.Text
