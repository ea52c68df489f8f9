import LoadDispatch.Text.CodePoint

/-!
# From bytes to text

A body is bytes; its text depends on the encoding.  This module has the encodings of Unicode, in
which JSON is sent; the encodings that only plain text is sent in are those of
`LoadDispatch.Text.Charset`.

Decoding never stops early: it yields one item for every character, its code point, and a gap
(`none`) for every malformed sequence.  The two ways of use differ only in what they make of the
gaps.

* `Encoding.lenient` shows every gap as the replacement character.
* `Encoding.strict?` refuses a text with gaps.

In UTF-8 a gap covers the longest head of a character that is there, at least one byte.  A lone
surrogate is a gap, unless `surrogates` is set: then it is read like any other code point.
-/

namespace LoadDispatch.Text

/-- The encodings of text. -/
inductive Encoding where
  | utf8
  /-- UTF-8 with a byte order mark in front that is left out.  A text that is cut off inside the
  mark is empty. -/
  | utf8Marked
  | utf16 (bigEndian : Bool)
  /-- UTF-16 in the byte order of its mark. -/
  | utf16Marked
  | utf32 (bigEndian : Bool)
  /-- UTF-32 in the byte order of its mark. -/
  | utf32Marked
deriving DecidableEq, Repr

/-- The character that is shown for what cannot be read. -/
def replacement : Char := '\uFFFD'

/-- How a character of UTF-8 goes on behind its first byte. -/
structure Utf8Lead where
  /-- The number of bytes that follow. -/
  following : Nat
  /-- The least second byte. -/
  low : Nat
  /-- The greatest second byte. -/
  high : Nat
  /-- The bits of the first byte that count. -/
  bits : Nat

/-- The lead of a character of more than one byte; `none` if no character begins with the byte. -/
def utf8Lead? (surrogates : Bool) (byte : Nat) : Option Utf8Lead :=
  if byte < 0xC2 then none
  else if byte < 0xE0 then some ⟨1, 0x80, 0xBF, byte - 0xC0⟩
  else if byte = 0xE0 then some ⟨2, 0xA0, 0xBF, 0⟩
  else if byte = 0xED then some ⟨2, 0x80, if surrogates then 0xBF else 0x9F, 0xD⟩
  else if byte < 0xF0 then some ⟨2, 0x80, 0xBF, byte - 0xE0⟩
  else if byte = 0xF0 then some ⟨3, 0x90, 0xBF, 0⟩
  else if byte < 0xF4 then some ⟨3, 0x80, 0xBF, byte - 0xF0⟩
  else if byte = 0xF4 then some ⟨3, 0x80, 0x8F, 4⟩
  else none

/-- The bytes that follow a lead, as far as they fit: the character if all do, and the rest. -/
def utf8Tail : Utf8Lead → List UInt8 → Option Nat × List UInt8
  | ⟨0, _, _, bits⟩, rest => (some bits, rest)
  | ⟨_ + 1, _, _, _⟩, [] => (none, [])
  | ⟨n + 1, low, high, bits⟩, b :: rest =>
    if low ≤ b.toNat ∧ b.toNat ≤ high then
      utf8Tail ⟨n, 0x80, 0xBF, 64 * bits + (b.toNat - 0x80)⟩ rest
    else (none, b :: rest)
termination_by lead => lead.following

/-- Decodes UTF-8.  The fuel is the number of bytes. -/
def utf8Items (surrogates : Bool) : Nat → List UInt8 → List (Option Nat)
  | _, [] => []
  | 0, _ => []
  | fuel + 1, b :: rest =>
    if b.toNat < 0x80 then some b.toNat :: utf8Items surrogates fuel rest
    else
      match utf8Lead? surrogates b.toNat with
      | none => none :: utf8Items surrogates fuel rest
      | some lead =>
        let (item, rest) := utf8Tail lead rest
        item :: utf8Items surrogates fuel rest

/-- The 16-bit units of a sequence of bytes; a single byte at the end is a unit of its own kind. -/
def units16 (bigEndian : Bool) : List UInt8 → List (Option Nat)
  | a :: b :: rest =>
    some (if bigEndian then 256 * a.toNat + b.toNat else 256 * b.toNat + a.toNat) ::
      units16 bigEndian rest
  | [_] => [none]
  | [] => []

/-- A surrogate that stands alone: a gap, unless `surrogates` is set. -/
def aloneItem (surrogates : Bool) (unit : Nat) : Option Nat :=
  if surrogates then some unit else none

/-- Decodes 16-bit units behind a high surrogate that waits for its other half, if there is one. -/
def utf16Items (surrogates : Bool) : Option Nat → List (Option Nat) → List (Option Nat)
  | none, [] => []
  | some high, [] => [aloneItem surrogates high]
  | _, none :: rest => none :: utf16Items surrogates none rest
  | waiting, some unit :: rest =>
    if 0xDC00 ≤ unit ∧ unit < 0xE000 then
      match waiting with
      | some high => some (pairCode high unit) :: utf16Items surrogates none rest
      | none => aloneItem surrogates unit :: utf16Items surrogates none rest
    else
      let before := (waiting.map (aloneItem surrogates)).toList
      if 0xD800 ≤ unit ∧ unit < 0xDC00 then before ++ utf16Items surrogates (some unit) rest
      else before ++ some unit :: utf16Items surrogates none rest

/-- Decodes 32-bit units; fewer than four bytes at the end are a gap. -/
def utf32Items (surrogates bigEndian : Bool) : List UInt8 → List (Option Nat)
  | a :: b :: c :: d :: rest =>
    let value (w x y z : UInt8) : Nat :=
      ((w.toNat * 256 + x.toNat) * 256 + y.toNat) * 256 + z.toNat
    let code := if bigEndian then value a b c d else value d c b a
    let item :=
      if 0x110000 ≤ code then none
      else if isSurrogate code then aloneItem surrogates code
      else some code
    item :: utf32Items surrogates bigEndian rest
  | [] => []
  | _ => [none]

/-- The mark in front of UTF-8. -/
def mark8 : List UInt8 := [0xEF, 0xBB, 0xBF]

/-- Decodes a sequence of bytes, one item for every character or gap. -/
def Encoding.items (surrogates : Bool) (bytes : List UInt8) : Encoding → List (Option Nat)
  | .utf8 => utf8Items surrogates bytes.length bytes
  | .utf8Marked =>
    if mark8.isPrefixOf bytes then utf8Items surrogates bytes.length (bytes.drop mark8.length)
    else if bytes.isPrefixOf mark8 then []
    else utf8Items surrogates bytes.length bytes
  | .utf16 bigEndian => utf16Items surrogates none (units16 bigEndian bytes)
  | .utf16Marked =>
    if [0xFE, 0xFF].isPrefixOf bytes then utf16Items surrogates none (units16 true (bytes.drop 2))
    else if [0xFF, 0xFE].isPrefixOf bytes then
      utf16Items surrogates none (units16 false (bytes.drop 2))
    else utf16Items surrogates none (units16 false bytes)
  | .utf32 bigEndian => utf32Items surrogates bigEndian bytes
  | .utf32Marked =>
    if [0, 0, 0xFE, 0xFF].isPrefixOf bytes then utf32Items surrogates true (bytes.drop 4)
    else if [0xFF, 0xFE, 0, 0].isPrefixOf bytes then utf32Items surrogates false (bytes.drop 4)
    else utf32Items surrogates false bytes

/-- Whether bytes begin with the mark of either byte order of UTF-16. -/
def hasMark16 (bytes : List UInt8) : Bool :=
  [0xFE, 0xFF].isPrefixOf bytes || [0xFF, 0xFE].isPrefixOf bytes

/-- Whether bytes begin with the mark of either byte order of UTF-32. -/
def hasMark32 (bytes : List UInt8) : Bool :=
  [0, 0, 0xFE, 0xFF].isPrefixOf bytes || [0xFF, 0xFE, 0, 0].isPrefixOf bytes

/-- The name of an encoding that tells the byte order by a mark, if the bytes lack it.  Bytes that
are fewer than a mark lack none. -/
def Encoding.lacksMark? (bytes : List UInt8) : Encoding → Option String
  | .utf16Marked => if 2 ≤ bytes.length ∧ ¬ hasMark16 bytes then some "UTF-16" else none
  | .utf32Marked => if 4 ≤ bytes.length ∧ ¬ hasMark32 bytes then some "UTF-32" else none
  | _ => none

/-- The text of items, the replacement character for every gap. -/
def shown (items : List (Option Nat)) : List Char :=
  items.flatMap fun item => (item.map ofCodePoint).getD [replacement]

/-- The text of bytes, the replacement character for every gap. -/
def Encoding.lenient (e : Encoding) (bytes : List UInt8) : String :=
  String.ofList (shown (e.items false bytes))

/-- The text of items without a gap. -/
def wholeText? (items : List (Option Nat)) : Option (List Char) :=
  (items.mapM id).map ofCodePoints

/-- The characters of bytes, if there is no gap.  Surrogates count as characters. -/
def Encoding.strict? (e : Encoding) (bytes : List UInt8) : Option (List Char) :=
  wholeText? (e.items true bytes)

/-- The encoding of a JSON text, which begins with a byte order mark or an ASCII character: the
zeros among its first four bytes tell the width and the order. -/
def Encoding.ofJson (bytes : List UInt8) : Encoding :=
  if hasMark32 bytes then .utf32Marked
  else if hasMark16 bytes then .utf16Marked
  else if mark8.isPrefixOf bytes then .utf8Marked
  else
    match bytes with
    | a :: b :: c :: d :: _ =>
      if a = 0 then (if b = 0 then .utf32 true else .utf16 true)
      else if b = 0 then (if c = 0 ∧ d = 0 then .utf32 false else .utf16 false)
      else .utf8
    | [a, b] => if a = 0 then .utf16 true else if b = 0 then .utf16 false else .utf8
    | _ => .utf8

end LoadDispatch.Text
