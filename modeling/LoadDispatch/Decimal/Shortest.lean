import LoadDispatch.Decimal.Binary
import LoadDispatch.Text.Digits

/-!
# The shortest decimal of a float

A positive float `m · 2^q` is the nearest float to every real between two bounds, half a unit
away on each side (a quarter below a power of two).  A decimal *reads back* as the float if it
lies between those bounds, the bounds included when `m` is even.

Among the grids `10^k`, from coarse to fine, the first that has a point between the bounds gives
the fewest digits; of its points the one nearest to the float is taken, of two equally near the
even one.  It is enough to test the float's two neighbours on each grid: if any point of the grid
lies between the bounds, so does one of them.
-/

namespace LoadDispatch.Decimal

/-- The point of the grid `10^k` to write for `x`, if one reads back as `x`.

All quantities are counted in quarters of the unit `2^exponent`, cleared of denominators: the
float is at `4 · mantissa` quarters, its bounds at two quarters above and two (or one) below. -/
def gridPoint? (x : Binary) (k : Int) : Option Nat :=
  let quarter := Nat.pow 2 (x.exponent - 2).toNat * Nat.pow 10 (-k).toNat
  let step := Nat.pow 2 (2 - x.exponent).toNat * Nat.pow 10 k.toNat
  let value := 4 * x.mantissa * quarter
  let below := if x.mantissa = Nat.pow 2 52 ∧ -1074 < x.exponent then 1 else 2
  let low := (4 * x.mantissa - below) * quarter
  let high := (4 * x.mantissa + 2) * quarter
  let readsBack (point : Nat) : Bool :=
    if x.mantissa % 2 = 0 then low ≤ point * step && point * step ≤ high
    else low < point * step && point * step < high
  let floor := value / step
  let nearer :=
    let twice := 2 * (value % step)
    if twice < step then floor else if step < twice then floor + 1 else floor + floor % 2
  if readsBack nearer then some nearer
  else if readsBack floor then some floor
  else if readsBack (floor + 1) then some (floor + 1)
  else none

/-- The digits `d` and the exponent `k` of the shortest decimal `d · 10^k` that reads back as `x`.
The search starts at a power of ten above `x` and is over after eighteen grids, since seventeen
digits tell any two floats apart. -/
def shortest (x : Binary) : Nat × Int :=
  let top := (x.exponent + x.mantissa.log2 + 1) * 30103 / 100000 + 1
  let found := (List.range 20).findSome? fun (i : Nat) =>
    (gridPoint? x (top - i)).map fun point => (point, top - i)
  found.getD (0, 0)

/-- How the shortest decimal of a float is laid out. -/
structure Layout where
  /-- The least decimal exponent that is written positionally. -/
  positionalFrom : Int
  /-- The least decimal exponent above the positional ones. -/
  positionalBelow : Int
  /-- The least number of digits of a written exponent. -/
  exponentWidth : Nat
  /-- The text of infinity. -/
  infinity : String
  /-- The text of what is not a number. -/
  notANumber : String

/-- The decimal `digits · 10^k` in the given layout. -/
def Layout.magnitude (l : Layout) (digits : List Char) (k : Int) : List Char :=
  let exponent := k + digits.length - 1
  if l.positionalFrom ≤ exponent ∧ exponent < l.positionalBelow then
    if exponent < 0 then
      ['0', '.'] ++ List.replicate (-exponent - 1).toNat '0' ++ digits
    else
      let whole := (exponent + 1).toNat
      let padded := digits ++ List.replicate (whole - digits.length) '0'
      let fraction := padded.drop whole
      padded.take whole ++ '.' :: (if fraction = [] then ['0'] else fraction)
  else
    let fraction := digits.drop 1
    digits.take 1 ++ (if fraction = [] then [] else '.' :: fraction) ++
      ['e', if exponent < 0 then '-' else '+'] ++
      (Nat.toDigits 10 exponent.natAbs).leftpad l.exponentWidth '0'

/-- The text of a float: the fewest digits that read back, in the given layout. -/
def Layout.text (l : Layout) (x : Float) : String :=
  let (negative, magnitude) := decode x
  let sign := if negative then "-" else ""
  match magnitude with
  | .notANumber => l.notANumber
  | .infinite => sign ++ l.infinity
  | .finite value =>
    if value.mantissa = 0 then sign ++ String.ofList (l.magnitude ['0'] 0)
    else
      let (point, k) := shortest value
      sign ++ String.ofList (l.magnitude (Nat.toDigits 10 point) k)

end LoadDispatch.Decimal
