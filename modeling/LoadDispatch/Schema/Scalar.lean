import LoadDispatch.Decimal.Binary
import LoadDispatch.Decimal.Numeral
import LoadDispatch.Json.Basic
import LoadDispatch.Schema.Report
import LoadDispatch.Text.CodePoint

/-!
# Scalars, read generously

A field of a schema has one kind of scalar, and a value of another kind is taken for it where that
loses nothing: a float without fraction or a numeral in quotes for an integer, `1` or `"yes"` for a
truth value, an integer for a float.  A text is only ever a text.  Where a text is taken for another
scalar it has to be without lone surrogates.

Each reader answers with the scalar or with the one rule that the value breaks.
-/

namespace LoadDispatch.Schema

/-- Reads a text. -/
def readText : Json → Except Rule String
  | .str s => .ok s
  | _ => .error .text

/-- Where integers begin that do not fit into 64 bits with a sign. -/
def wideWhole : Nat := Nat.pow 2 63

/-- Reads a float as an integer.  One that is too wide for 64 bits is refused. -/
def wholeOfFloat (x : Float) : Except Rule Int :=
  match Decimal.decode x with
  | (negative, .finite value) =>
    match value.nat? with
    | some n =>
      if wideWhole ≤ n then .error .wholeTextSize
      else .ok (if negative then -(n : Int) else n)
    | none => .error .noFraction
  | _ => .error .finite

/-- Reads a text as another scalar. -/
def viaText {α : Type} (s : String) (read : String → Except Rule α) : Except Rule α :=
  if Text.isWellFormed s then read s else .error .wellFormed

/-- Reads a text as an integer. -/
def wholeOfText (s : String) : Except Rule Int :=
  match Decimal.Numeral.whole? s with
  | .ok n => .ok n
  | .error .malformed => .error .wholeText
  | .error .tooLong => .error .wholeTextSize

/-- Reads an integer. -/
def readWhole : Json → Except Rule Int
  | .int n => .ok n
  | .bool b => .ok (if b then 1 else 0)
  | .float x => wholeOfFloat x
  | .str s => viaText s wholeOfText
  | _ => .error .whole

/-- The words for true. -/
def trueWords : List String := ["1", "on", "t", "true", "y", "yes"]

/-- The words for false. -/
def falseWords : List String := ["0", "off", "f", "false", "n", "no"]

/-- Reads zero or one as a truth value.  An integer that is too wide for 64 bits is not even tried
as one. -/
def truthOfWhole (n : Int) : Except Rule Bool :=
  if n = 0 then .ok false else if n = 1 then .ok true
  else if n < -wideWhole ∨ wideWhole ≤ n then .error .truth
  else .error .truthText

/-- Reads a text as a truth value. -/
def truthOfText (s : String) : Except Rule Bool :=
  let word := String.ofList (s.toList.map Char.toLower)
  if trueWords.contains word then .ok true
  else if falseWords.contains word then .ok false
  else .error .truthText

/-- Reads a truth value. -/
def readTruth : Json → Except Rule Bool
  | .bool b => .ok b
  | .int n => truthOfWhole n
  | .float x =>
    match wholeOfFloat x with
    | .ok n => truthOfWhole n
    | .error _ => .error .truth
  | .str s => viaText s truthOfText
  | _ => .error .truth

/-- Reads a text as a float. -/
def realOfText (s : String) : Except Rule Float :=
  match Decimal.Numeral.real? s with
  | some x => .ok x
  | none => .error .realText

/-- Reads a float.  An integer beyond the largest float is none. -/
def readReal : Json → Except Rule Float
  | .float x => .ok x
  | .int n =>
    let x := Decimal.ofWhole n
    match (Decimal.decode x).2 with
    | .finite _ => .ok x
    | _ => .error .real
  | .bool b => .ok (if b then 1.0 else 0.0)
  | .str s => viaText s realOfText
  | _ => .error .real

/-- An integer that is not below `least`. -/
def atLeast (least : Int) (read : Json → Except Rule Int) (j : Json) : Except Rule Int :=
  match read j with
  | .ok n => if n < least then .error .atLeast else .ok n
  | .error rule => .error rule

/-- An integer that is not above `greatest`. -/
def atMost (greatest : Int) (read : Json → Except Rule Int) (j : Json) : Except Rule Int :=
  match read j with
  | .ok n => if greatest < n then .error .atMost else .ok n
  | .error rule => .error rule

end LoadDispatch.Schema
