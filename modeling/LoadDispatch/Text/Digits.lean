/-!
# Digits

Digits as characters: what a sequence of decimal digits is worth, what a hexadecimal digit is
worth, and numbers written in a field of fixed width.
-/

namespace LoadDispatch.Text

/-- The number that a sequence of decimal digits writes. -/
def decimalValue (digits : List Char) : Nat :=
  digits.foldl (fun n c => 10 * n + (c.toNat - '0'.toNat)) 0

/-- The value of a hexadecimal digit in either case. -/
def hexValue? (c : Char) : Option Nat :=
  if c.isDigit then some (c.toNat - '0'.toNat)
  else if 'a' ≤ c ∧ c ≤ 'f' then some (c.toNat - 'a'.toNat + 10)
  else if 'A' ≤ c ∧ c ≤ 'F' then some (c.toNat - 'A'.toNat + 10)
  else none

/-- The hexadecimal digits of a number, in lower case, in a field of the given width. -/
def hexField (width n : Nat) : List Char :=
  (Nat.toDigits 16 n).leftpad width '0'

/-- The decimal digits of an integer, behind a minus sign if it is negative. -/
def intDigits (n : Int) : List Char :=
  if n < 0 then '-' :: Nat.toDigits 10 n.natAbs else Nat.toDigits 10 n.natAbs

end LoadDispatch.Text
