import LoadDispatch.Text.CodePoint

/-!
# Punycode

A text in ASCII for any sequence of code points.  The ASCII characters of a text are written first,
with a hyphen behind them; then it is told where each other character has to be put in, the
characters in increasing order.  A place is told by the distance from the one before, as a numeral
of variable length whose digit values adapt to the distances seen so far.

`encode` is total.  `decode` has a strict form, which refuses what cannot have been written, and a
lenient one, which gives what is there so far; a character beyond Unicode is a question mark in it.
-/

namespace LoadDispatch.Text

/-- Whether a code point is ASCII. -/
def isAscii (code : Nat) : Bool :=
  code < 0x80

namespace Punycode

/-- The character of a digit from 0 to 35. -/
def digit (d : Nat) : Char :=
  if d < 26 then Char.ofNat (97 + d) else Char.ofNat (22 + d)

/-- The value of a digit in either case. -/
def digitValue? (c : Char) : Option Nat :=
  if c.isLower then some (c.toNat - 97)
  else if c.isUpper then some (c.toNat - 65)
  else if c.isDigit then some (c.toNat - 22)
  else none

/-- The weight of the last digit that is not final, at a position of a numeral. -/
def threshold (position bias : Nat) : Nat :=
  max 1 (min 26 (position - bias))

/-- Divides a distance by 35 until it is small; counts 36 for each time. -/
def shrink (delta steps : Nat) : Nat × Nat :=
  if h : 455 < delta then shrink (delta / 35) (steps + 36) else (delta, steps)
termination_by delta
decreasing_by omega

/-- The bias behind a distance, with the number of characters that are placed so far. -/
def adapt (delta placed : Nat) (first : Bool) : Nat :=
  let scaled := if first then delta / 700 else delta / 2
  let (small, steps) := shrink (scaled + scaled / placed) 0
  steps + 36 * small / (small + 38)

/-! ## Writing -/

/-- A distance as a numeral.  The fuel is the distance itself, which shrinks with every digit. -/
def numeral (bias : Nat) : Nat → Nat → Nat → List Char
  | 0, _, rest => [digit rest]
  | fuel + 1, position, rest =>
    let t := threshold position bias
    if rest < t then [digit rest]
    else
      digit (t + (rest - t) % (36 - t)) ::
        numeral bias fuel (position + 36) ((rest - t) / (36 - t))

/-- How far the writing of a text is. -/
structure Writing where
  /-- The numerals so far. -/
  written : List Char := []
  /-- The distance since the last place. -/
  delta : Nat := 0
  /-- The bias of the next numeral. -/
  bias : Nat := 72
  /-- The number of characters that are placed. -/
  placed : Nat

/-- Passes over one character of the text while `code` is put in. -/
def Writing.pass (basic code : Nat) (p : Writing) (own : Nat) : Writing :=
  if own < code then { p with delta := p.delta + 1 }
  else if own = code then
    { written := p.written ++ numeral p.bias p.delta 36 p.delta
      delta := 0
      bias := adapt p.delta (p.placed + 1) (p.placed == basic)
      placed := p.placed + 1 }
  else p

/-- Puts in the characters with the given codes, which increase and are not below `next`. -/
def Writing.place (text : List Nat) (basic : Nat) : Nat → List Nat → Writing → Writing
  | _, [], p => p
  | next, code :: codes, p =>
    let p := { p with delta := p.delta + (code - next) * (p.placed + 1) }
    let p := text.foldl (Writing.pass basic code) p
    Writing.place text basic (code + 1) codes { p with delta := p.delta + 1 }

/-- The Punycode form of a text. -/
def encode (text : List Nat) : List Char :=
  let basic := text.filter isAscii
  let codes := (text.filter (!isAscii ·)).mergeSort.eraseDups
  let start : Writing := { placed := basic.length }
  (if basic = [] then [] else basic.map Char.ofNat ++ ['-']) ++
    (start.place text basic.length 0x80 codes).written

/-! ## Reading -/

/-- The value of the numeral in front of a text, and what is left; `none` if it breaks off or has a
character that is no digit. -/
def numeral? (bias : Nat) : Nat → Nat → List Char → Option (Nat × List Char)
  | _, _, [] => none
  | position, weight, c :: rest =>
    match digitValue? c with
    | none => none
    | some d =>
      let t := threshold position bias
      if d < t then some (d * weight, rest)
      else
        (numeral? bias (position + 36) (weight * (36 - t)) rest).map fun (value, rest) =>
          (d * weight + value, rest)

/-- How far the reading of a text is. -/
structure Reading where
  /-- The text so far. -/
  text : List Nat
  /-- The least code that is put in next. -/
  code : Nat := 0x80
  /-- The place from which the next distance counts. -/
  place : Nat := 0
  /-- The bias of the next numeral. -/
  bias : Nat := 72
  /-- Whether nothing was put in. -/
  isFirst : Bool := true

/-- Puts in the character that a distance tells; `none` if it is beyond Unicode and the reading is
strict. -/
def Reading.put? (strict : Bool) (r : Reading) (delta : Nat) : Option Reading :=
  let count := r.text.length + 1
  let position := r.place + delta
  let code := r.code + position / count
  if strict ∧ 0x110000 ≤ code then none
  else
    let code := if 0x110000 ≤ code then '?'.toNat else code
    some {
      text := r.text.take (position % count) ++ code :: r.text.drop (position % count)
      code
      place := position % count + 1
      bias := adapt delta count r.isFirst
      isFirst := false }

/-- Puts in all characters.  The fuel is the number of characters that are left. -/
def Reading.run? (strict : Bool) : Nat → Reading → List Char → Option (List Nat)
  | _, r, [] => some r.text
  | 0, r, _ => some r.text
  | fuel + 1, r, cs =>
    match numeral? r.bias 36 1 cs with
    | none => if strict then none else some r.text
    | some (delta, rest) => (r.put? strict delta).bind fun r => Reading.run? strict fuel r rest

/-- The ASCII characters of a Punycode form, and the numerals behind the last hyphen. -/
def split (form : List Char) : List Char × List Char :=
  if form.contains '-' then
    let numerals := (form.reverse.takeWhile (· != '-')).reverse
    (form.take (form.length - numerals.length - 1), numerals)
  else ([], form)

/-- The text of a Punycode form in ASCII, if it is one. -/
def decode? (form : List Char) : Option (List Nat) :=
  let (basic, numerals) := split form
  Reading.run? true numerals.length { text := basic.map Char.toNat } numerals

/-- The text of a Punycode form as far as it can be read, behind its basic characters. -/
def decodeLenient (basic : List Nat) (numerals : List Char) : List Nat :=
  (Reading.run? false numerals.length { text := basic } numerals).getD []

end Punycode

end LoadDispatch.Text
