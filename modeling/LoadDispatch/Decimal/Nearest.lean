/-!
# The binary64 number nearest to a fraction

Reading a decimal means choosing, among the finite binary64 numbers `m · 2^q` with `m < 2^53` and
`q ≥ -1074`, the one nearest to a fraction; of two that are equally near, the one with even `m`.
Everything below is exact arithmetic on `Nat`: the float appears only in the last step, when the
chosen `m` and `q` are written as a bit pattern.
-/

namespace LoadDispatch.Decimal

/-- A binary exponent at which the fraction `num / den` has about 53 bits.  The estimate from the
lengths of both numbers is off by one at most, upwards. -/
def binaryExponent (num den : Nat) : Int :=
  let estimate : Int := (num.log2 : Int) - den.log2 - 53
  let scaled := num <<< (-estimate).toNat
  let unit := den <<< estimate.toNat
  if scaled / unit < Nat.pow 2 53 then estimate else estimate + 1

/-- The quotient `num / den`, rounded to the nearest natural number, a tie to the even one. -/
def roundQuotient (num den : Nat) : Nat :=
  let floor := num / den
  let twice := 2 * (num % den)
  if twice < den then floor
  else if den < twice then floor + 1
  else floor + floor % 2

/-- The bit pattern of the positive binary64 number nearest to `num / den`; the pattern of
infinity if the fraction is beyond the largest number by half a unit or more.

With `q` clamped to the exponent of the subnormal numbers, the pattern of `m · 2^q` is
`(q + 1074) · 2^52 + m` in every case: below `2^52` the number is subnormal, and a carry of the
rounding to `2^53` moves on to the next exponent by itself. -/
def nearestBits (num den : Nat) : Nat :=
  if num = 0 then 0
  else
    let q := max (binaryExponent num den) (-1074)
    let m := roundQuotient (num <<< (-q).toNat) (den <<< q.toNat)
    min ((q + 1074).toNat * Nat.pow 2 52 + m) (0x7FF * Nat.pow 2 52)

/-- The float nearest to `mantissa · 10^exponent`.  Outside of `10^±400` the answer is infinity or
zero whatever the digits are, so no large power of ten is ever computed. -/
def ofDecimal (negative : Bool) (mantissa : Nat) (exponent : Int) : Float :=
  let magnitude := exponent + (Nat.toDigits 10 mantissa).length
  let bits :=
    if mantissa = 0 ∨ magnitude < -400 then 0
    else if 400 < magnitude then 0x7FF * Nat.pow 2 52
    else nearestBits (mantissa * Nat.pow 10 exponent.toNat) (Nat.pow 10 (-exponent).toNat)
  Float.ofBits (bits + if negative then Nat.pow 2 63 else 0).toUInt64

/-- The float nearest to a whole number. -/
def ofWhole (n : Int) : Float :=
  ofDecimal (n < 0) n.natAbs 0

end LoadDispatch.Decimal
