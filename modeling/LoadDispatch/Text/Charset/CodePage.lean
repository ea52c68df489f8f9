import LoadDispatch.Text.Decoding

/-!
# Code pages

A code page gives every byte a character of its own, or none.  Most of them agree with ASCII on the
lower half and differ on the upper one; those of mainframes have an order of their own from the
beginning.
-/

namespace LoadDispatch.Text.Charset

/-- A character for every byte. -/
structure CodePage where
  /-- Where the characters are listed from.  A lower byte is the character with its own number. -/
  first : Nat := 0x80
  /-- The characters of the bytes from `first` on, the replacement character where there is none.
  A byte behind the last of them is the character with its own number. -/
  upper : String

namespace CodePage

/-- The character of a byte. -/
def char (p : CodePage) (b : UInt8) : Char :=
  if b.toNat < p.first then Char.ofNat b.toNat
  else (p.upper.toList[b.toNat - p.first]?).getD (Char.ofNat b.toNat)

/-- The text of bytes, the replacement character for a byte without character. -/
def read (p : CodePage) (bytes : List UInt8) : List Char :=
  bytes.map p.char

/-- ASCII, which has no upper half. -/
def ascii : CodePage where
  upper := String.ofList (List.replicate 128 replacement)

/-- Latin-1, the first 256 characters of Unicode. -/
def latin1 : CodePage where
  upper := ""

end CodePage

end LoadDispatch.Text.Charset
