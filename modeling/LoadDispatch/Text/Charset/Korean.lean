import LoadDispatch.Text.Charset.KsX1001
import LoadDispatch.Text.Charset.Reading

/-!
# Korean encodings

Three encodings of Korean, all with characters of one and of two bytes.

* `extendedKorean` puts KS X 1001 into the upper half of both bytes.  A syllable that the set lacks
  is written by its parts, in eight bytes.
* `windowsKorean` has KS X 1001 in the same places, and all other syllables, in order, in the
  places that are left.
* `combinedKorean` (Johab) writes a syllable by five bits for each of its three parts.
-/

namespace LoadDispatch.Text.Charset

/-- The syllable of an initial, a medial and a final, each as a number. -/
def syllable (initial medial final : Nat) : Char :=
  Char.ofNat (0xAC00 + (initial * 21 + medial) * 28 + final)

/-- A place of KS X 1001 in the upper halves of two bytes. -/
def ksX1001Upper? (first second : Nat) : Option Char :=
  if 0x80 ≤ first ∧ 0x80 ≤ second then ksX1001.char? (first - 0x80) (second - 0x80) else none

/-- The initials among the letters of KS X 1001, from the first letter on. -/
def letterInitials : List (Option Nat) :=
  [some 0, some 1, none, some 2, none, none, some 3, some 4, some 5, none, none, none, none, none,
    none, none, some 6, some 7, some 8, none, some 9, some 10, some 11, some 12, some 13, some 14,
    some 15, some 16, some 17, some 18]

/-- The finals among the letters of KS X 1001, from the first letter on. -/
def letterFinals : List (Option Nat) :=
  [some 1, some 2, some 3, some 4, some 5, some 6, some 7, none, some 8, some 9, some 10, some 11,
    some 12, some 13, some 14, some 15, some 16, some 17, none, some 18, some 19, some 20, some 21,
    some 22, none, some 23, some 24, some 25, some 26, some 27]

/-- The byte in front of a letter. -/
def letterByte : Nat := 0xA4

/-- The letter that stands for none. -/
def letterFiller : Nat := 0xD4

/-- A syllable of eight bytes: the filler and three letters, each behind `letterByte`. -/
def spelled? (first second third : Nat) : Option Char :=
  let initial := if 0xA1 ≤ first then (letterInitials[first - 0xA1]?).join else none
  let medial := if 0xBF ≤ second ∧ second ≤ 0xD3 then some (second - 0xBF) else none
  let final :=
    if third = letterFiller then some 0
    else if 0xA1 ≤ third then (letterFinals[third - 0xA1]?).join
    else none
  match initial, medial, final with
  | some i, some m, some f => some (syllable i m f)
  | _, _, _ => none

/-- The rule of KS X 1001 in the upper halves of two bytes. -/
def extendedKoreanRule (b : UInt8) (rest : List UInt8) : Front :=
  if b.toNat < 0x80 then .one (Char.ofNat b.toNat)
  else
    .two rest fun second =>
      if b.toNat = letterByte ∧ second = letterFiller then
        match rest with
        | _ :: m1 :: first :: m2 :: middle :: m3 :: last :: _ =>
          if [m1, m2, m3].all (·.toNat = letterByte) then
            .ofChar? 7 (spelled? first.toNat middle.toNat last.toNat)
          else .gap 0
        | _ => .short
      else .ofChar? 1 (ksX1001Upper? b.toNat second)

/-- Reads KS X 1001 in the upper halves of two bytes. -/
def extendedKorean : Charset :=
  readBy extendedKoreanRule

/-- The number of the last byte among the second bytes of the additional syllables: letters and the
upper half. -/
def trailNumber? (second : Nat) : Option Nat :=
  if 0x41 ≤ second ∧ second ≤ 0x5A then some (second - 0x41)
  else if 0x61 ≤ second ∧ second ≤ 0x7A then some (second - 0x61 + 26)
  else if 0x81 ≤ second ∧ second ≤ 0xFE then some (second - 0x81 + 52)
  else none

/-- The number of the first places of an additional syllable: the rows up to `0xA0` are full, those
behind have only the places that KS X 1001 leaves. -/
def additionalNumber? (first second : Nat) : Option Nat :=
  (trailNumber? second).bind fun n =>
    if first < 0x81 then none
    else if first < 0xA1 then some ((first - 0x81) * 178 + n)
    else if n < 84 then some (32 * 178 + (first - 0xA1) * 84 + n)
    else none

/-- The places of the syllables in KS X 1001: their rows, each full. -/
def plainSyllables : List Nat :=
  (ksX1001.filter fun run => 0x30 ≤ run.row && run.row ≤ 0x48).flatMap fun run =>
    run.chars.toList.map Char.toNat

/-- The syllable with the number `n` among those that are not in `plain`, which increases, from
`code` on. -/
def nthOther (n : Nat) : Nat → List Nat → Nat
  | code, [] => code + n
  | code, p :: plain =>
    if code + n < p then code + n else nthOther (n - (p - code)) (p + 1) plain

/-- The number of the syllables that KS X 1001 lacks. -/
def additionalCount : Nat := 8822

/-- A syllable that KS X 1001 lacks. -/
def additionalSyllable? (first second : Nat) : Option Char :=
  ((additionalNumber? first second).filter (· < additionalCount)).map fun n =>
    Char.ofNat (nthOther n 0xAC00 plainSyllables)

/-- The rule of the Korean code page of Windows. -/
def windowsKoreanRule (b : UInt8) (rest : List UInt8) : Front :=
  if b.toNat < 0x80 then .one (Char.ofNat b.toNat)
  else
    .two rest fun second =>
      .ofChar? 1 (ksX1001Upper? b.toNat second <|> additionalSyllable? b.toNat second)

/-- Reads the Korean code page of Windows. -/
def windowsKorean : Charset :=
  readBy windowsKoreanRule

/-- A part of a syllable in five bits. -/
inductive Part where
  /-- The part is left out. -/
  | absent
  /-- The part with a number. -/
  | present (n : Nat)
deriving DecidableEq, Repr

/-- Five bits as an initial. -/
def initialBits? (bits : Nat) : Option Part :=
  if bits = 1 then some .absent
  else if 2 ≤ bits ∧ bits ≤ 20 then some (.present (bits - 2))
  else none

/-- Five bits as a medial.  Two of eight are never used. -/
def medialBits? (bits : Nat) : Option Part :=
  if bits = 2 then some .absent
  else if 3 ≤ bits ∧ bits ≤ 29 ∧ bits % 8 ≠ 0 ∧ bits % 8 ≠ 1 then
    some (.present (bits - 3 - 2 * (bits / 8)))
  else none

/-- Five bits as a final. -/
def finalBits? (bits : Nat) : Option Part :=
  if bits = 1 then some .absent
  else if 2 ≤ bits ∧ bits ≤ 17 then some (.present (bits - 1))
  else if 19 ≤ bits ∧ bits ≤ 29 then some (.present (bits - 2))
  else none

/-- The letter with a number in a list of letters. -/
def letterOf (letters : List (Option Nat)) (n : Nat) : Char :=
  Char.ofNat (0x3131 + letters.idxOf (some n))

/-- The character of three parts: a syllable, or the letter of the only part. -/
def combine? : Part → Part → Part → Option Char
  | .present i, .present m, .absent => some (syllable i m 0)
  | .present i, .present m, .present f => some (syllable i m f)
  | .absent, .absent, .absent => some '\u3000'
  | .present i, .absent, .absent => some (letterOf letterInitials i)
  | .absent, .present m, .absent => some (Char.ofNat (0x314F + m))
  | .absent, .absent, .present f => some (letterOf letterFinals f)
  | _, _, _ => none

/-- The syllable or letter of sixteen bits: a one, and three times five. -/
def combinedSyllable? (first second : Nat) : Option Char := do
  let initial ← initialBits? (first / 4 % 32)
  let medial ← medialBits? (first * 8 % 32 + second / 32)
  let final ← finalBits? (second % 32)
  combine? initial medial final

/-- A character of KS X 1001 that is no syllable, two rows of the set in one row here. -/
def combinedOther? (first second : Nat) : Option Char :=
  if first = 0xDF ∨ 0xF9 < first ∨ second < 0x31 ∨ (0x7F ≤ second ∧ second < 0x91) ∨
      second = 0xFF ∨ (first = 0xDA ∧ 0xA1 ≤ second ∧ second ≤ 0xD3) then none
  else
    let row := if first < 0xE0 then 2 * first - 0x1B2 else 2 * first - 0x197
    let cell := if second < 0x91 then second - 0x31 else second - 0x43
    if 0xD9 ≤ first then ksX1001.char? (row + cell / 94 + 0x21) (cell % 94 + 0x21) else none

/-- The rule of Johab. -/
def combinedKoreanRule (b : UInt8) (rest : List UInt8) : Front :=
  if b.toNat < 0x80 then .one (Char.ofNat b.toNat)
  else
    .two rest fun second =>
      .ofChar? 1
        (if b.toNat < 0xD8 then combinedSyllable? b.toNat second
        else combinedOther? b.toNat second)

/-- Reads Johab. -/
def combinedKorean : Charset :=
  readBy combinedKoreanRule

end LoadDispatch.Text.Charset
