/-!
# The exact value of a float

A float is finite, infinite or not a number, and has a sign.  A finite one is exactly
`± mantissa · 2^exponent`, which is read off its bit pattern.
-/

namespace LoadDispatch.Decimal

/-- A finite float without its sign, as `mantissa · 2^exponent`. -/
structure Binary where
  /-- The integer part, below `2^53`. -/
  mantissa : Nat
  /-- The binary exponent, at least `-1074`. -/
  exponent : Int
deriving DecidableEq, Repr

/-- A float without its sign. -/
inductive Magnitude where
  /-- A finite one. -/
  | finite (value : Binary)
  /-- Infinity. -/
  | infinite
  /-- Not a number. -/
  | notANumber
deriving DecidableEq, Repr

/-- The magnitude with the given bit pattern, sign cleared. -/
def Magnitude.ofBits (bits : Nat) : Magnitude :=
  let field : Nat := bits / Nat.pow 2 52
  let fraction : Nat := bits % Nat.pow 2 52
  if field = 0 then .finite ⟨fraction, -1074⟩
  else if field < 0x7FF then .finite ⟨fraction + Nat.pow 2 52, (field : Int) - 1075⟩
  else if fraction = 0 then .infinite
  else .notANumber

/-- Whether the sign of a float is set, and the rest of it. -/
def decode (x : Float) : Bool × Magnitude :=
  let bits := x.toBits.toNat
  (Nat.pow 2 63 ≤ bits, .ofBits (bits % Nat.pow 2 63))

/-- The value as a natural number, if it is one. -/
def Binary.nat? (x : Binary) : Option Nat :=
  let denominator := Nat.pow 2 (-x.exponent).toNat
  if x.mantissa % denominator = 0 then
    some (x.mantissa / denominator * Nat.pow 2 x.exponent.toNat)
  else none

end LoadDispatch.Decimal
