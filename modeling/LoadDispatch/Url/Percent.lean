import LoadDispatch.Text.CodePoint
import LoadDispatch.Text.Digits

/-!
# Percent encoding

A character that a part of a URL does not admit is written as the bytes of its UTF-8 form, each as
`%` and two hexadecimal digits in upper case.  Two encodings are used.

* `escape` encodes a part of a URL that may be encoded already: an existing `%XX` stays as it is.
* `formValue` encodes a value of a query, which is plain text: a `%` is encoded too, and a space
  becomes `+`.
-/

namespace LoadDispatch.Url

/-- A byte as `%XX`. -/
def percentByte (b : UInt8) : List Char :=
  ['%', (Nat.digitChar (b.toNat / 16)).toUpper, (Nat.digitChar (b.toNat % 16)).toUpper]

/-- A character as the bytes of its UTF-8 form. -/
def percentChar (c : Char) : List Char :=
  (String.utf8EncodeChar c).flatMap percentByte

/-- The characters that no part of a URL needs to encode. -/
def isUnreserved (c : Char) : Bool :=
  c.isAlphanum || c == '-' || c == '.' || c == '_' || c == '~'

/-- A hexadecimal digit. -/
def isHexDigit (c : Char) : Bool :=
  (Text.hexValue? c).isSome

/-- Encodes the characters that are not in `safe`; leaves every `%XX` alone. -/
def escapeChars (safe : Char → Bool) : List Char → List Char
  | [] => []
  | '%' :: a :: b :: rest =>
    if isHexDigit a && isHexDigit b then '%' :: a :: b :: escapeChars safe rest
    else (if safe '%' then ['%'] else percentChar '%') ++ escapeChars safe (a :: b :: rest)
  | c :: rest =>
    (if isUnreserved c || safe c then [c] else percentChar c) ++ escapeChars safe rest

/-- Encodes the characters of `s` that are not in `safe`; leaves every `%XX` alone. -/
def escape (safe : Char → Bool) (s : String) : String :=
  String.ofList (escapeChars safe ((Text.codePoints s.toList).map Char.ofNat))

/-- Encodes a value of a query. -/
def formValue (s : String) : String :=
  String.ofList <| ((Text.codePoints s.toList).map Char.ofNat).flatMap fun c =>
    if isUnreserved c then [c] else if c = ' ' then ['+'] else percentChar c

/-- A visible ASCII character other than those in `except`. -/
def visibleExcept (except : List Char) (c : Char) : Bool :=
  0x20 ≤ c.toNat && c.toNat < 0x7F && !except.contains c

/-- What a path admits. -/
def pathSafe : Char → Bool :=
  visibleExcept [' ', '"', '#', '<', '>', '?', '\x60', '\x7b', '\x7d']

/-- What a query admits. -/
def querySafe : Char → Bool :=
  visibleExcept [' ', '"', '#', '<', '>']

/-- What a fragment admits. -/
def fragmentSafe : Char → Bool :=
  visibleExcept [' ', '"', '<', '>', '\x60']

/-- What the user information in front of a host admits. -/
def userinfoSafe (c : Char) : Bool :=
  pathSafe c && !(['/', ';', '=', '@', '[', '\\', ']', '^', '|'].contains c)

/-- What the name of a host admits. -/
def hostSafe (c : Char) : Bool :=
  ['!', '$', '&', '\'', '(', ')', '*', '+', ',', ';', '=', '"', '\x60', '\x7b', '\x7d', '%', '|',
    '\\'].contains c

end LoadDispatch.Url
