import LoadDispatch.Text.Charset.Reading

/-!
# UTF-7

UTF-7 writes most of ASCII as it is and everything else in runs between `+` and `-`: the 16-bit
units of the text, six bits to a character of base 64.  A run also ends in front of any character
that is none of base 64, and `+-` is the plus sign.

The bits of a run are collected until they make a unit.  A run must not end with a digit that adds
nothing to a unit, nor with bits that are not zero.
-/

namespace LoadDispatch.Text.Charset

/-- The value of a character of base 64. -/
def base64Value? (b : UInt8) : Option Nat :=
  let n := b.toNat
  if 0x41 ≤ n ∧ n ≤ 0x5A then some (n - 0x41)
  else if 0x61 ≤ n ∧ n ≤ 0x7A then some (n - 0x61 + 26)
  else if 0x30 ≤ n ∧ n ≤ 0x39 then some (n - 0x30 + 52)
  else if n = 0x2B then some 62
  else if n = 0x2F then some 63
  else none

/-- How far a run is. -/
structure Base64Run where
  /-- The number of bits that are no unit yet. -/
  bits : Nat := 0
  /-- Their value. -/
  value : Nat := 0
  /-- A high surrogate that waits for its other half. -/
  high : Option Nat := none

namespace Base64Run

/-- Takes a unit of 16 bits: the characters it completes, and the high surrogate it leaves. -/
def takeUnit (high : Option Nat) (unit : Nat) : List Char × Option Nat :=
  match high with
  | some h =>
    if 0xDC00 ≤ unit ∧ unit < 0xE000 then (ofCodePoint (pairCode h unit), none)
    else if 0xD800 ≤ unit ∧ unit < 0xDC00 then (ofCodePoint h, some unit)
    else (ofCodePoints [h, unit], none)
  | none =>
    if 0xD800 ≤ unit ∧ unit < 0xDC00 then ([], some unit) else (ofCodePoint unit, none)

/-- Takes six bits more. -/
def feed (r : Base64Run) (six : Nat) : List Char × Base64Run :=
  let value := r.value * 64 + six
  let bits := r.bits + 6
  if 16 ≤ bits then
    let left := bits - 16
    let (cs, high) := takeUnit r.high (value / Nat.pow 2 left)
    (cs, { bits := left, value := value % Nat.pow 2 left, high })
  else ([], { r with bits, value })

/-- Whether a run may end here. -/
def isComplete (r : Base64Run) : Bool :=
  r.bits < 6 && (r.bits == 0 || r.value == 0)

end Base64Run

/-- Whether a byte is a character of its own outside of a run. -/
def isDirect (b : UInt8) : Bool :=
  b.toNat < 0x80 && b != 0x2B

/-- Where a reading is. -/
inductive Utf7State where
  /-- Outside of a run. -/
  | outside
  /-- Behind the plus sign that begins a run. -/
  | entered
  /-- In a run. -/
  | inside (run : Base64Run)

namespace Utf7State

/-- Reads a byte outside of a run. -/
def takeOutside (b : UInt8) : List Char × Utf7State :=
  if b = 0x2B then ([], .entered)
  else ([if isDirect b then Char.ofNat b.toNat else replacement], .outside)

/-- Reads a digit of a run. -/
def takeDigit (run : Base64Run) (six : Nat) : List Char × Utf7State :=
  let (cs, run) := run.feed six
  (cs, .inside run)

/-- Reads a byte: the characters it completes, and where the reading is then. -/
def take (b : UInt8) : Utf7State → List Char × Utf7State
  | .outside => takeOutside b
  | .entered =>
    if b = 0x2D then (['+'], .outside)
    else match base64Value? b with
    | some six => takeDigit {} six
    | none => ([replacement], .outside)
  | .inside run =>
    match base64Value? b with
    | some six => takeDigit run six
    | none =>
      if run.isComplete then
        let alone := if isDirect b then ofCodePoints run.high.toList else []
        let (cs, state) := if b = 0x2D then ([], .outside) else takeOutside b
        (alone ++ cs, state)
      else ([replacement], .outside)

/-- What is read where the bytes end. -/
def finish : Utf7State → List Char
  | .inside run => if run.isComplete ∧ run.high = none then [] else [replacement]
  | _ => []

end Utf7State

/-- Reads UTF-7 from anywhere on. -/
def utf7From (state : Utf7State) : List UInt8 → List Char
  | [] => state.finish
  | b :: rest =>
    let (cs, state) := state.take b
    cs ++ utf7From state rest

/-- Reads UTF-7. -/
def utf7 : Charset := fun bytes => .ok (utf7From .outside bytes)

end LoadDispatch.Text.Charset
