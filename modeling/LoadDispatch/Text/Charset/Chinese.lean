import LoadDispatch.Text.Charset.Big5
import LoadDispatch.Text.Charset.Gb18030
import LoadDispatch.Text.Charset.Gbk
import LoadDispatch.Text.Charset.Hkscs
import LoadDispatch.Text.Charset.Reading

/-!
# Chinese encodings

The encodings of mainland China are each a part of the next one: GB 2312, GBK, and GB 18030, which
has a place for every character of Unicode, of four bytes if there is none of two.  `hz` has
GB 2312 in seven bits, between marks that switch to it and back.

The encodings of Taiwan and Hong Kong are Big5, with the additions of Windows or of Hong Kong.
-/

namespace LoadDispatch.Text.Charset

/-! ## Mainland China -/

/-- The cells of GBK among those of GB 2312 that the latter leaves empty: a row, and the first and
the last cell. -/
def beyondGb2312 : List (Nat × Nat × Nat) := [
  (0xA2, 0xA1, 0xAA), (0xA6, 0xE0, 0xEB), (0xA6, 0xEE, 0xF2), (0xA6, 0xF4, 0xF5),
  (0xA8, 0xBB, 0xBB), (0xA8, 0xBD, 0xBE), (0xA8, 0xC0, 0xC0)]

/-- A character of GB 2312, by its place in the upper halves of two bytes.  Two signs are other ones
than in GBK. -/
def gb2312? (first second : Nat) : Option Char :=
  let isBeyond := beyondGb2312.any fun (row, low, high) =>
    row == first && low ≤ second && second ≤ high
  if first < 0xA1 ∨ 0xF7 < first ∨ second < 0xA1 ∨ isBeyond then none
  else if first = 0xA1 ∧ second = 0xA4 then some '\u30fb'
  else if first = 0xA1 ∧ second = 0xAA then some '\u2015'
  else gbk.char? first second

/-- The rule of an encoding with ASCII and characters of two bytes. -/
def doubleByteRule (char? : Nat → Nat → Option Char) (b : UInt8) (rest : List UInt8) : Front :=
  if b.toNat < 0x80 then .one (Char.ofNat b.toNat)
  else .two rest fun second => .ofChar? 1 (char? b.toNat second)

/-- Reads GB 2312. -/
def gb2312 : Charset :=
  readBy (doubleByteRule gb2312?)

/-- Reads GBK. -/
def gbkText : Charset :=
  readBy (doubleByteRule gbk.char?)

/-- A character for private use at a place of GB 18030: in three areas they stand in order. -/
def privateUse? (first second : Nat) : Option Char :=
  if 0xAA ≤ first ∧ first ≤ 0xAF ∧ 0xA1 ≤ second ∧ second ≤ 0xFE then
    some (Char.ofNat (0xE000 + (first - 0xAA) * 94 + (second - 0xA1)))
  else if 0xF8 ≤ first ∧ first ≤ 0xFE ∧ 0xA1 ≤ second ∧ second ≤ 0xFE then
    some (Char.ofNat (0xE234 + (first - 0xF8) * 94 + (second - 0xA1)))
  else if 0xA1 ≤ first ∧ first ≤ 0xA7 ∧ 0x40 ≤ second ∧ second ≤ 0xA0 ∧ second ≠ 0x7F then
    let column := second - if second < 0x7F then 0x40 else 0x41
    some (Char.ofNat (0xE4C6 + (first - 0xA1) * 96 + column))
  else none

/-- The code point with a number among those without a place of two bytes, below `0x10000`. -/
def remainingCode? (number : Nat) : Option Nat :=
  if number < remainingCount then
    ((remaining.takeWhile (·.1 ≤ number)).getLast?).map fun (first, code) => code + (number - first)
  else none

/-- The code point of four bytes. -/
def fourByte? (a b c d : Nat) : Option Nat :=
  if a < 0x81 ∨ 0xFE < a ∨ c < 0x81 ∨ 0xFE < c ∨ d < 0x30 ∨ 0x39 < d then none
  else
    let number := ((a - 0x81) * 10 + (b - 0x30)) * 1260 + (c - 0x81) * 10 + (d - 0x30)
    if a - 0x81 < 4 then remainingCode? number
    else if 15 ≤ a - 0x81 then
      let code := 0x10000 + (number - 15 * 12600)
      if code < 0x110000 then some code else none
    else none

/-- The rule of GB 18030. -/
def gb18030Rule (b : UInt8) (rest : List UInt8) : Front :=
  if b.toNat < 0x80 then .one (Char.ofNat b.toNat)
  else
    .two rest fun second =>
      if 0x30 ≤ second ∧ second ≤ 0x39 then
        match rest with
        | _ :: third :: fourth :: _ =>
          .ofChars? 3 ((fourByte? b.toNat second third.toNat fourth.toNat).map ofCodePoint)
        | _ => .short
      else
        .ofChar? 1 (gbk.char? b.toNat second <|> gb18030.char? b.toNat second <|>
          privateUse? b.toNat second)

/-- Reads GB 18030. -/
def gb18030Text : Charset :=
  readBy gb18030Rule

/-- The rule of HZ.  The state tells whether two bytes are a character. -/
def hzRule : Rule Bool := fun paired b rest =>
  if b = 0x7E then
    match rest with
    | [] => (.short, paired)
    | second :: _ =>
      if ¬ paired ∧ second = 0x7E then (.chars ['~'] 1, paired)
      else if ¬ paired ∧ second = 0x7B then (.chars [] 1, true)
      else if ¬ paired ∧ second = 0x0A then (.chars [] 1, paired)
      else if paired ∧ second = 0x7D then (.chars [] 1, false)
      else (.gap 0, paired)
  else if 0x80 ≤ b.toNat then (.gap 0, paired)
  else if paired then
    (.two rest fun second =>
      .ofChar? 1 (if second < 0x80 then gb2312? (b.toNat + 0x80) (second + 0x80) else none), paired)
  else (.one (Char.ofNat b.toNat), paired)

/-- Reads HZ. -/
def hz : Charset :=
  readFrom hzRule false 0

/-! ## Taiwan and Hong Kong -/

/-- Reads Big5. -/
def big5Text : Charset :=
  readBy (doubleByteRule big5.char?)

/-- Reads the Chinese code page of Windows for Taiwan. -/
def windowsBig5Text : Charset :=
  readBy (doubleByteRule fun first second =>
    windowsBig5.char? first second <|> big5.char? first second)

/-- Whether a place belongs to Hong Kong alone, though Big5 has characters there. -/
def isHongKong (first second : Nat) : Bool :=
  first == 0xC7 || first == 0xC8 || (first == 0xC6 && 0xA1 ≤ second)

/-- The rule of Big5 with the characters of Hong Kong. -/
def hongKongRule (b : UInt8) (rest : List UInt8) : Front :=
  if b.toNat < 0x80 then .one (Char.ofNat b.toNat)
  else
    .two rest fun second =>
      let plain := if isHongKong b.toNat second then none else big5.char? b.toNat second
      match plain <|> hkscs.char? b.toNat second with
      | some c => .chars [c] 1
      | none =>
        match composedLatin.find? fun (row, cell, _) => row == b.toNat && cell == second with
        | some (_, _, cs) => .chars cs 1
        | none => .gap 0

/-- Reads Big5 with the characters of Hong Kong. -/
def hongKong : Charset :=
  readBy hongKongRule

end LoadDispatch.Text.Charset
