import LoadDispatch.Text.CodeRange
import LoadDispatch.Text.Composition.Order
import LoadDispatch.Text.Composition.Pairs

/-!
# Composed texts

One text can be written by different characters: with a letter and its accent as one character or
as two, and with the marks of a letter in different orders.  Of all these forms one is *composed*:
it comes of taking every character apart, putting the marks in order, and putting together what can
be put together.  `isComposed` says whether a text is in that form.

Syllables of Korean are composed by arithmetic, all other characters by a table.
-/

namespace LoadDispatch.Text

/-- The first of the syllables of Korean. -/
def firstSyllable : Nat := 0xAC00

/-- The two parts of a syllable of Korean. -/
def syllableParts? (code : Nat) : Option (Nat × Nat) :=
  if firstSyllable ≤ code ∧ code < firstSyllable + 11172 then
    let number := code - firstSyllable
    if number % 28 = 0 then some (0x1100 + number / 588, 0x1161 + number % 588 / 28)
    else some (code - number % 28, 0x11A7 + number % 28)
  else none

/-- The syllable of Korean that two parts make. -/
def syllable? (first second : Nat) : Option Nat :=
  if 0x1100 ≤ first ∧ first < 0x1113 ∧ 0x1161 ≤ second ∧ second < 0x1176 then
    some (firstSyllable + ((first - 0x1100) * 21 + (second - 0x1161)) * 28)
  else if firstSyllable ≤ first ∧ first < firstSyllable + 11172 ∧ (first - firstSyllable) % 28 = 0 ∧
      0x11A8 ≤ second ∧ second < 0x11C3 then
    some (first + (second - 0x11A7))
  else none

/-- The two characters that a character is made of. -/
def parts? (code : Nat) : Option (Nat × Nat) :=
  syllableParts? code <|> composedPairs.lookup code

/-- The character that two characters make. -/
def whole? (first second : Nat) : Option Nat :=
  syllable? first second <|>
    (composedPairs.find? fun (_, a, b) => a == first && b == second).map (·.1)

/-- The number of times that a character can be taken apart. -/
def partDepth : Nat := 3

/-- A character taken apart; the second part is never made of others. -/
def takeApart : Nat → Nat → List Nat
  | 0, code => [code]
  | depth + 1, code =>
    match parts? code with
    | some (first, second) => takeApart depth first ++ [second]
    | none => [code]

/-- Puts a character in front of others, a mark behind the marks of a lower class. -/
def insertMark (code : Nat) : List Nat → List Nat
  | [] => [code]
  | next :: rest =>
    if 0 < combiningClass next ∧ combiningClass next < combiningClass code then
      next :: insertMark code rest
    else code :: next :: rest

/-- A text with its marks in order. -/
def orderMarks (codes : List Nat) : List Nat :=
  codes.foldr insertMark []

/-- How far a text is put together. -/
structure Composing where
  /-- What is done, in reverse order. -/
  done : List Nat := []
  /-- The last character that stands by itself. -/
  base : Option Nat := none
  /-- The marks behind it that are not part of it, in reverse order. -/
  marks : List Nat := []

/-- All characters, in reverse order. -/
def Composing.all (c : Composing) : List Nat :=
  c.marks ++ c.base.toList ++ c.done

/-- Takes one more character.  It becomes part of the base if the two make one character and no mark
of its class or a higher one stands between. -/
def Composing.take (c : Composing) (code : Nat) : Composing :=
  let free := c.marks.head?.all fun mark => combiningClass mark < combiningClass code
  match (if free then c.base.bind (whole? · code) else none) with
  | some whole => { c with base := some whole }
  | none =>
    if combiningClass code = 0 then { done := c.all, base := some code }
    else if c.base = none then { c with done := code :: c.done }
    else { c with marks := code :: c.marks }

/-- A text put together. -/
def compose (codes : List Nat) : List Nat :=
  (codes.foldl Composing.take {}).all.reverse

/-- Whether a text is in its composed form. -/
def isComposed (codes : List Nat) : Bool :=
  codes.all (fun code => !inRanges neverComposed code) &&
    compose (orderMarks (codes.flatMap (takeApart partDepth))) == codes

end LoadDispatch.Text
