import LoadDispatch.Text.CodePoint
import LoadDispatch.Text.Digits
import LoadDispatch.Text.Printable

/-!
# Quoted text

A text is quoted so that it fits on one line and every character can be told from its neighbours.
The quote is `'`, unless the text has a `'` and no `"`.  A backslash, the quote in use, line feed,
carriage return and tab are written with a backslash; any other character that is not printable,
and every lone surrogate, is written by its code point, in two, four or eight hexadecimal digits.
-/

namespace LoadDispatch.Text

/-- The quote that surrounds a text. -/
def quoteFor (cs : List Char) : Char :=
  if cs.contains '\'' ∧ ¬ cs.contains '"' then '"' else '\''

/-- A code point as it is written when its character is not. -/
def escapedCode (code : Nat) : List Char :=
  if code < 0x100 then '\\' :: 'x' :: hexField 2 code
  else if code < 0x10000 then '\\' :: 'u' :: hexField 4 code
  else '\\' :: 'U' :: hexField 8 code

/-- One character between two quotes `quote`. -/
def quotedChar (quote c : Char) : List Char :=
  if c = quote ∨ c = '\\' then ['\\', c]
  else if c = '\n' then ['\\', 'n']
  else if c = '\r' then ['\\', 'r']
  else if c = '\t' then ['\\', 't']
  else if isPrintable c then [c]
  else escapedCode c.toNat

/-- One code point between two quotes `quote`. -/
def quotedCode (quote : Char) (code : Nat) : List Char :=
  if isSurrogate code then escapedCode code else quotedChar quote (Char.ofNat code)

/-- A text in quotes. -/
def quoted (s : String) : String :=
  let quote := quoteFor s.toList
  String.ofList (quote :: (codePoints s.toList).flatMap (quotedCode quote) ++ [quote])

end LoadDispatch.Text
