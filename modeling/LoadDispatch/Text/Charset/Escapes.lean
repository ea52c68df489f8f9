import LoadDispatch.Text.Charset.Reading
import LoadDispatch.Text.Digits

/-!
# Text with escapes

Two encodings write characters by a backslash and their code point.  `fewEscapes` knows `\u` and
`\U`; `allEscapes` knows the escapes of a string literal.  A byte that belongs to no escape is the
character with its own number, and an escape that breaks off is one replacement character as far as
it goes.  Characters cannot be written by their names: every name is unknown.
-/

namespace LoadDispatch.Text.Charset

/-- A byte as the character with its own number. -/
def byteChar (b : UInt8) : Char := Char.ofNat b.toNat

/-- The hexadecimal digits in front of bytes, up to a number of them. -/
def hexDigits (count : Nat) (bytes : List UInt8) : List Nat :=
  ((bytes.take count).takeWhile fun b => (hexValue? (byteChar b)).isSome).filterMap fun b =>
    hexValue? (byteChar b)

/-- The front of an escape of `count` hexadecimal digits behind a backslash and a letter. -/
def hexFront (count : Nat) (bytes : List UInt8) : Front :=
  let digits := hexDigits count bytes
  let code := digits.foldl (fun n d => 16 * n + d) 0
  if digits.length = count ∧ code < 0x110000 then .chars (ofCodePoint code) (1 + count)
  else .gap (1 + digits.length)

/-- The front of an escape by a name, which is as long as its braces if it has a name. -/
def nameFront (bytes : List UInt8) : Front :=
  match bytes with
  | 0x7B :: rest =>
    let name := rest.takeWhile (· != 0x7D)
    if name.length = rest.length then .gap (2 + name.length)
    else if name = [] then .gap 2
    else .gap (3 + name.length)
  | _ => .gap 1

/-- The octal digits in front of bytes, three at most. -/
def octalDigits (bytes : List UInt8) : List Nat :=
  ((bytes.take 3).takeWhile fun b => 0x30 ≤ b && b ≤ 0x37).map (·.toNat - 0x30)

/-- The escapes of a single letter. -/
def letterEscapes : List (Char × List Char) := [
  ('\n', []), ('\\', ['\\']), ('\'', ['\'']), ('"', ['"']), ('b', ['\x08']), ('f', ['\x0c']),
  ('t', ['\t']), ('n', ['\n']), ('r', ['\r']), ('v', ['\x0b']), ('a', ['\x07'])]

/-- The rule of the escapes of a string literal. -/
def allEscapesRule (b : UInt8) (rest : List UInt8) : Front :=
  if b ≠ 0x5C then .one (byteChar b)
  else
    match rest with
    | [] => .gap 0
    | letter :: rest' =>
      match letterEscapes.lookup (byteChar letter) with
      | some cs => .chars cs 1
      | none =>
        if octalDigits rest ≠ [] then
          let digits := octalDigits rest
          .chars [Char.ofNat (digits.foldl (fun n d => 8 * n + d) 0)] digits.length
        else if letter = 0x78 then hexFront 2 rest'
        else if letter = 0x75 then hexFront 4 rest'
        else if letter = 0x55 then hexFront 8 rest'
        else if letter = 0x4E then nameFront rest'
        else .chars ['\\', byteChar letter] 1

/-- The rule of escapes by code point alone. -/
def fewEscapesRule (b : UInt8) (rest : List UInt8) : Front :=
  if b ≠ 0x5C then .one (byteChar b)
  else
    match rest with
    | [] => .one (byteChar b)
    | letter :: rest' =>
      if letter = 0x75 then hexFront 4 rest'
      else if letter = 0x55 then hexFront 8 rest'
      else .chars ['\\', byteChar letter] 1

/-- Reads text with the escapes of a string literal. -/
def allEscapes : Charset := readBy allEscapesRule

/-- Reads text with escapes by code point. -/
def fewEscapes : Charset := readBy fewEscapesRule

end LoadDispatch.Text.Charset
