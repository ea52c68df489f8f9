import LoadDispatch.Text.Decoding

/-!
# Characters in rows and cells

The character sets of East Asia give a character two numbers, its row and its cell.  A `Grid` holds
such a set in runs: the text of neighbouring cells of one row, so that a set reads as it is printed
in its standard.  A single cell without character inside a run holds the replacement character.
-/

namespace LoadDispatch.Text.Charset

/-- The characters of neighbouring cells. -/
structure Run where
  /-- The row. -/
  row : Nat
  /-- The first of the cells. -/
  cell : Nat
  /-- The characters. -/
  chars : String

/-- The character at a place, if the run has it. -/
def Run.char? (r : Run) (row cell : Nat) : Option Char :=
  if row = r.row ∧ r.cell ≤ cell then
    (r.chars.toList[cell - r.cell]?).filter (· != replacement)
  else none

/-- A set of characters in rows and cells. -/
abbrev Grid := List Run

/-- The character at a place. -/
def Grid.char? (g : Grid) (row cell : Nat) : Option Char :=
  g.findSome? (·.char? row cell)

end LoadDispatch.Text.Charset
