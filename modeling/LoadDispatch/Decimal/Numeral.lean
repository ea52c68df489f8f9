import LoadDispatch.Decimal.Nearest
import LoadDispatch.Text.Blank
import LoadDispatch.Text.Digits

/-!
# Numerals people write

Two readers of numbers that are written as text, in an environment variable, on a command line or
in a quoted JSON value.

* `whole?` reads an integer.  Around it white space is allowed, in front a plus sign and leading
  zeros, between digits single underscores, and after it a fraction of zeros only.
* `real?` reads a float: the usual decimal notation with or without exponent, `inf`, `infinity`
  and `nan` in any case, white space around it, or single underscores inside it but not both.

A numeral that needs none of this is `canonical?`: an optional minus sign and digits without a
needless zero in front.  `whole?` is `canonical?` after `simplify?`.
-/

namespace LoadDispatch.Decimal.Numeral

open Text (decimalValue)

/-- The longest head of digits, and the rest. -/
def spanDigits (cs : List Char) : List Char × List Char :=
  (cs.takeWhile Char.isDigit, cs.dropWhile Char.isDigit)

/-- Digits without a needless zero in front. -/
def canonicalDigits (ds : List Char) : Bool :=
  match ds with
  | [] => false
  | ['0'] => true
  | d :: _ => d != '0' && ds.all Char.isDigit

/-- Reads an integer in its canonical form. -/
def canonical? : List Char → Option Int
  | '-' :: ds => if canonicalDigits ds then some (-(decimalValue ds : Int)) else none
  | ds => if canonicalDigits ds then some (decimalValue ds : Int) else none

/-- An integer of more digits than this is refused. -/
def digitLimit : Nat := 4300

/-- Whether a canonical numeral has more digits than `digitLimit`. -/
def tooLong (cs : List Char) : Bool :=
  digitLimit < (cs.filter Char.isDigit).length

/-- Leaves out single underscores between other characters; `none` if there is no underscore, or
one at an end or beside another. -/
def joinUnderscores? (cs : List Char) : Option (List Char) :=
  if cs.head? = some '_' ∨ cs.getLast? = some '_' ∨ ¬ '_' ∈ cs ∨
      ('_', '_') ∈ cs.zip cs.tail then none
  else some (cs.filter (· != '_'))

/-- Drops zeros and underscores in front of the first other digit or of a minus sign, given what
came before.  In front of a point the last character stays, which must then be a zero. -/
def dropZeros? (last : Char) : List Char → Option (List Char)
  | [] => some [last]
  | c :: cs =>
    if c = '0' ∨ c = '_' then dropZeros? c cs
    else if c = '.' then some (last :: c :: cs)
    else if c.isDigit ∨ c = '-' then some (c :: cs)
    else none

/-- Drops needless zeros in front of a number without sign. -/
def leading? : List Char → Option (List Char)
  | '0' :: cs => dropZeros? '0' cs
  | c :: cs => if c.isDigit then some (c :: cs) else none
  | [] => none

/-- Drops a point with zeros behind it, at least one, and nothing else. -/
def dropPointZeros (cs : List Char) : List Char :=
  let whole := cs.takeWhile (· != '.')
  let zeros := cs.drop (whole.length + 1)
  if zeros != [] && zeros.all (· == '0') then whole else cs

/-- What `cs` says once every liberty is taken out of it; `none` if it is no integer.  The sign is
set aside, so that zeros behind a minus sign are needless too. -/
def simplify? (cs : List Char) : Option (List Char) := do
  let (sign, unsigned) := match Text.stripWhile Text.isWhiteSpace cs with
    | '+' :: rest => ([], rest)
    | '-' :: rest => (['-'], rest)
    | rest => ([], rest)
  let whole := dropPointZeros (← leading? unsigned)
  pure (sign ++ (joinUnderscores? whole).getD whole)

/-- Why a text is not read as an integer. -/
inductive WholeFault where
  /-- It is not an integer. -/
  | malformed
  /-- It is an integer of too many digits. -/
  | tooLong
deriving DecidableEq, Repr

/-- Reads an integer with the liberties of this module. -/
def whole? (s : String) : Except WholeFault Int :=
  match canonical? s.toList with
  | some n => if tooLong s.toList then .error .tooLong else .ok n
  | none =>
    match (simplify? s.toList).filter (!tooLong ·) |>.bind canonical? with
    | some n => .ok n
    | none => .error .malformed

/-- The exponent part of a float, if `cs` is one and nothing else. -/
def exponent? : List Char → Option Int
  | [] => some 0
  | e :: cs =>
    if e = 'e' ∨ e = 'E' then
      let (negative, digits) := match cs with
        | '-' :: ds => (true, ds)
        | '+' :: ds => (false, ds)
        | ds => (false, ds)
      if digits ≠ [] ∧ digits.all Char.isDigit then
        some (if negative then -(decimalValue digits : Int) else decimalValue digits)
      else none
    else none

/-- An unsigned float: digits with a point before, between or behind them, and an exponent. -/
def magnitude? (negative : Bool) (cs : List Char) : Option Float :=
  let (whole, rest) := spanDigits cs
  let (fraction, rest) := match rest with
    | '.' :: rest => spanDigits rest
    | rest => ([], rest)
  if whole = [] ∧ fraction = [] then none
  else
    (exponent? rest).map fun e =>
      ofDecimal negative (decimalValue (whole ++ fraction)) (e - fraction.length)

/-- A float in plain notation. -/
def plainReal? (cs : List Char) : Option Float :=
  let (negative, unsigned) := match cs with
    | '-' :: rest => (true, rest)
    | '+' :: rest => (false, rest)
    | rest => (false, rest)
  let word := String.ofList (unsigned.map Char.toLower)
  if word = "nan" then some (Float.ofBits 0x7FF8000000000000)
  else if word = "inf" ∨ word = "infinity" then
    some (Float.ofBits (if negative then 0xFFF0000000000000 else 0x7FF0000000000000))
  else magnitude? negative unsigned

/-- Reads a float with the liberties of this module. -/
def real? (s : String) : Option Float :=
  plainReal? (Text.stripWhile Text.isWhiteSpace s.toList) <|>
    (joinUnderscores? s.toList).bind plainReal?

end LoadDispatch.Decimal.Numeral
