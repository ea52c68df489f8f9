import LoadDispatch.Text.Charset.JisX0208
import LoadDispatch.Text.Charset.JisX0212
import LoadDispatch.Text.Charset.JisX0213
import LoadDispatch.Text.Charset.Reading
import LoadDispatch.Text.Charset.WindowsKanji

/-!
# Japanese encodings

Two ways to put JIS X 0208 beside ASCII.  The extended form sets the upper bit of row and cell; the
Shift form packs two rows into one first byte, so that katakana of a single byte have room.  Both
have a variant with JIS X 0213, in its edition of 2000 or of 2004, and the Shift form has another
one for Windows.
-/

namespace LoadDispatch.Text.Charset

/-- A katakana of a single byte. -/
def halfKatakana? (b : Nat) : Option Char :=
  if 0xA1 ≤ b ∧ b ≤ 0xDF then some (Char.ofNat (0xFF61 + (b - 0xA1))) else none

/-- The editions of JIS X 0213. -/
inductive Edition where
  | y2000 | y2004
deriving DecidableEq, Repr

/-- The characters of the first plane that were added in 2004. -/
def addedLater : List (Nat × Nat) := [
  (0x2E, 0x21), (0x2F, 0x7E), (0x4F, 0x54), (0x4F, 0x7E), (0x74, 0x27), (0x7E, 0x7A), (0x7E, 0x7B),
  (0x7E, 0x7C), (0x7E, 0x7D), (0x7E, 0x7E)]

/-- The characters at a place of the first plane: those of JIS X 0208, then the others. -/
def firstPlane? (edition : Edition) (row cell : Nat) : Option (List Char) :=
  if edition = .y2000 ∧ (row, cell) ∈ addedLater then none
  else
    match firstPlane.char? row cell <|> jisX0208.char? row cell with
    | some c => some [c]
    | none =>
      (composedKana.find? fun (r, c, _) => r == row && c == cell).map fun (_, _, cs) => cs

/-- The character at a place of the second plane.  One is another character in the edition of
2000. -/
def secondPlane? (edition : Edition) (row cell : Nat) : Option Char :=
  if edition = .y2000 ∧ row = 0x7D ∧ cell = 0x3B then some '\u9b1d' else secondPlane.char? row cell

/-- What stands in front of a place that was added later, in the edition before: nothing, and two
bytes are left out. -/
def Front.later (edition : Edition) (row cell : Nat) (front : Front) : Front :=
  if edition = .y2000 ∧ (row, cell) ∈ addedLater then .gap 1 else front

/-! ## The extended form -/

/-- The rule of the extended form: katakana behind `0x8E`, a supplementary set behind `0x8F`, and
the rest by row and cell. -/
def extendedRule (main : Nat → Nat → Front) (supplement? : Nat → Nat → Option Char) (b : UInt8)
    (rest : List UInt8) : Front :=
  if b.toNat < 0x80 then .one (Char.ofNat b.toNat)
  else if b = 0x8E then .two rest fun second => .ofChar? 1 (halfKatakana? second)
  else if b = 0x8F then
    match rest with
    | second :: third :: _ =>
      if 0x80 ≤ second.toNat ∧ 0x80 ≤ third.toNat then
        .ofChar? 2 (supplement? (second.toNat - 0x80) (third.toNat - 0x80))
      else .gap 0
    | _ => .short
  else
    .two rest fun second =>
      if 0x80 ≤ second then main (b.toNat - 0x80) (second - 0x80) else .gap 0

/-- Reads the extended form of JIS X 0208 with the supplementary set. -/
def extendedJapanese : Charset :=
  readBy (extendedRule (fun row cell => .ofChar? 1 (jisX0208.char? row cell)) jisX0212.char?)

/-- Reads the extended form of JIS X 0213. -/
def extendedEdition (edition : Edition) : Charset :=
  readBy (extendedRule
    (fun row cell => .later edition row cell (.ofChars? 1 (firstPlane? edition row cell)))
    (fun row cell => secondPlane? edition row cell <|> jisX0212.char? row cell))

/-! ## The Shift form -/

/-- Row and cell of two bytes in Shift form. -/
def unshift? (first second : Nat) : Option (Nat × Nat) :=
  if second < 0x40 ∨ second = 0x7F ∨ 0xFC < second then none
  else
    let pair := if first < 0xE0 then first - 0x81 else first - 0xC1
    let place := if second < 0x80 then second - 0x40 else second - 0x41
    some (2 * pair + place / 94 + 0x21, place % 94 + 0x21)

/-- Whether a byte is the first of two in Shift form, up to the last one given. -/
def isShiftLead (last b : Nat) : Bool :=
  (0x81 ≤ b && b ≤ 0x9F) || (0xE0 ≤ b && b ≤ last)

/-- The rule of the Shift form. -/
def shiftRule (b : UInt8) (rest : List UInt8) : Front :=
  if b.toNat < 0x80 then .one (Char.ofNat b.toNat)
  else if isShiftLead 0xFC b.toNat then
    .two rest fun second =>
      .ofChar? 1 ((unshift? b.toNat second).bind fun (row, cell) => jisX0208.char? row cell)
  else .ofChar? 0 (halfKatakana? b.toNat)

/-- Reads the Shift form of JIS X 0208. -/
def shiftJapanese : Charset :=
  readBy shiftRule

/-- A single byte of ASCII as the Japanese variant of it reads: a yen sign and an overline take two
places. -/
def romanChar (b : Nat) : Char :=
  if b = 0x5C then '¥' else if b = 0x7E then '\u203e' else Char.ofNat b

/-- The row of the second plane that a row of the Shift form beyond the first plane holds. -/
def secondPlaneRow (row : Nat) : Nat :=
  if 0x88 ≤ row then row - 0x1A
  else if 0x84 ≤ row ∨ row = 0x80 then row - 0x58
  else row - 0x5E

/-- The characters of two bytes in the Shift form of JIS X 0213.  What the variant of ASCII has no
place for is in the first plane. -/
def shiftEditionFront (edition : Edition) (first second : Nat) : Front :=
  match unshift? first second with
  | none => .gap 0
  | some (0x21, 0x40) => .chars ['\\'] 1
  | some (0x22, 0x32) => .chars ['~'] 1
  | some (row, cell) =>
    if row < 0x7F then .later edition row cell (.ofChars? 1 (firstPlane? edition row cell))
    else .ofChar? 1 (secondPlane? edition (secondPlaneRow row) cell)

/-- The rule of the Shift form of JIS X 0213. -/
def shiftEditionRule (edition : Edition) (b : UInt8) (rest : List UInt8) : Front :=
  if b.toNat < 0x80 then .one (romanChar b.toNat)
  else if isShiftLead 0xFC b.toNat then .two rest (shiftEditionFront edition b.toNat)
  else .ofChar? 0 (halfKatakana? b.toNat)

/-- Reads the Shift form of JIS X 0213. -/
def shiftEdition (edition : Edition) : Charset :=
  readBy (shiftEditionRule edition)

/-- A single byte beyond ASCII in the code page of Windows. -/
def windowsSingle? (b : Nat) : Option Char :=
  if b = 0x80 then some '\u0080'
  else if b = 0xA0 then some '\uf8f0'
  else if 0xFD ≤ b then some (Char.ofNat (0xF8F1 + (b - 0xFD)))
  else halfKatakana? b

/-- A character for private use in the code page of Windows. -/
def windowsPrivate? (first second : Nat) : Option Char :=
  if 0xF0 ≤ first ∧ first ≤ 0xF9 ∧ 0x40 ≤ second ∧ second ≤ 0xFC ∧ second ≠ 0x7F then
    some (Char.ofNat
      (0xE000 + 188 * (first - 0xF0) + (second - if second < 0x80 then 0x40 else 0x41)))
  else none

/-- The rule of the Japanese code page of Windows. -/
def windowsJapaneseRule (b : UInt8) (rest : List UInt8) : Front :=
  if b.toNat < 0x80 then .one (Char.ofNat b.toNat)
  else
    match windowsSingle? b.toNat with
    | some c => .one c
    | none =>
      .two rest fun second =>
        .ofChar? 1 (windowsKanji.char? b.toNat second <|>
          ((unshift? b.toNat second).bind fun (row, cell) => jisX0208.char? row cell) <|>
          windowsPrivate? b.toNat second)

/-- Reads the Japanese code page of Windows. -/
def windowsJapanese : Charset :=
  readBy windowsJapaneseRule

end LoadDispatch.Text.Charset
