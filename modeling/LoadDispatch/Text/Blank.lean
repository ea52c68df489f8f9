/-!
# Blank characters and trimming

Two sets of characters count as blank in this library, and they differ in exactly four code
points.

* `isWhiteSpace` is the Unicode property `White_Space`.  Numerals are trimmed by it.
* `isBlank` adds the four information separators `U+001C` to `U+001F`.  Free text (endpoints,
  status words, level names, response bodies) is trimmed by it.

Neither set has the zero-width space `U+200B` or the byte order mark `U+FEFF`.

Trimming is defined on lists of characters, where its laws are list laws; `trim` and `trimEnd`
are the same functions on `String`.
-/

namespace LoadDispatch.Text

/-- The Unicode property `White_Space`. -/
def isWhiteSpace (c : Char) : Bool :=
  (0x09 ≤ c.toNat && c.toNat ≤ 0x0D) || c.toNat == 0x20 || c.toNat == 0x85 || c.toNat == 0xA0 ||
  c.toNat == 0x1680 || (0x2000 ≤ c.toNat && c.toNat ≤ 0x200A) || c.toNat == 0x2028 ||
  c.toNat == 0x2029 || c.toNat == 0x202F || c.toNat == 0x205F || c.toNat == 0x3000

/-- White space, or one of the four information separators. -/
def isBlank (c : Char) : Bool :=
  isWhiteSpace c || (0x1C ≤ c.toNat && c.toNat ≤ 0x1F)

/-- Drops the longest head and then the longest tail of characters that satisfy `p`. -/
def stripWhile (p : Char → Bool) (cs : List Char) : List Char :=
  ((cs.dropWhile p).reverse.dropWhile p).reverse

/-- `s` without the blanks at both of its ends. -/
def trim (s : String) : String :=
  String.ofList (stripWhile isBlank s.toList)

/-- `s` without the characters at its end that satisfy `p`. -/
def trimEnd (p : Char → Bool) (s : String) : String :=
  String.ofList (s.toList.reverse.dropWhile p).reverse

end LoadDispatch.Text
