import LoadDispatch.Decimal.Numeral
import LoadDispatch.Json.Basic
import LoadDispatch.Text.Decoding

/-!
# Reading JSON

The reader takes the grammar of JSON as it is, with three numbers more: `NaN`, `Infinity` and
`-Infinity`.  Only space, tab, line feed and carriage return are blanks; a control character in a
string is refused; of two members with one key the last value counts, in the place of the first.

Each function takes the characters that are left and returns a value with what is left behind it.
At most two calls share a character, the one that reads a bracket and the one that begins behind it,
so the length of the text bounds the fuel of `value`: `Json.readWithin` shows none of it.  It has a
bound for the nesting of values instead, which `Json.read?` sets so high that no text meets it.
-/

namespace LoadDispatch.Json

open Decimal (Numeral.spanDigits Numeral.digitLimit)

/-- The blanks of JSON. -/
def isJsonBlank (c : Char) : Bool :=
  c == ' ' || c == '\t' || c == '\n' || c == '\r'

/-- What is left behind the blanks in front. -/
def skipBlanks (cs : List Char) : List Char :=
  cs.dropWhile isJsonBlank

/-- What is left of `cs` behind `word`, if it begins with it. -/
def after? (word : List Char) (cs : List Char) : Option (List Char) :=
  if word.isPrefixOf cs then some (cs.drop word.length) else none

/-- Four hexadecimal digits and what is left behind them. -/
def hexQuad? : List Char → Option (Nat × List Char)
  | a :: b :: c :: d :: rest => do
    let high := 16 * (← Text.hexValue? a) + (← Text.hexValue? b)
    let low := 16 * (← Text.hexValue? c) + (← Text.hexValue? d)
    pure (256 * high + low, rest)
  | _ => none

/-- The low surrogate that an escape at the front of a text writes, and what is left behind it. -/
def lowSurrogate? : List Char → Option (Nat × List Char)
  | '\\' :: 'u' :: quad =>
    (hexQuad? quad).filter fun (low, _) => 0xDC00 ≤ low && low < 0xE000
  | _ => none

/-- The code point of the code unit `unit`, written in front of `rest`.  A high surrogate takes the
low surrogate behind it along; a surrogate without its other half stays alone. -/
def unitCode (unit : Nat) (rest : List Char) : Nat × List Char :=
  if 0xD800 ≤ unit ∧ unit < 0xDC00 then
    match lowSurrogate? rest with
    | some (low, rest) => (Text.pairCode unit low, rest)
    | none => (unit, rest)
  else (unit, rest)

/-- What an escape stands for, given what stands behind the backslash. -/
def escape? : List Char → Option (List Char × List Char)
  | '"' :: rest => some (['"'], rest)
  | '\\' :: rest => some (['\\'], rest)
  | '/' :: rest => some (['/'], rest)
  | 'b' :: rest => some (['\x08'], rest)
  | 'f' :: rest => some (['\x0c'], rest)
  | 'n' :: rest => some (['\n'], rest)
  | 'r' :: rest => some (['\r'], rest)
  | 't' :: rest => some (['\t'], rest)
  | 'u' :: rest =>
    (hexQuad? rest).map fun (unit, rest) =>
      let (code, rest) := unitCode unit rest
      (Text.ofCodePoint code, rest)
  | _ => none

/-- The characters of a string up to its closing quote, in reverse order of reading in `done`, and
what is left behind it.  The fuel is the number of characters left. -/
def stringTail? : Nat → List Char → List Char → Option (String × List Char)
  | 0, _, _ => none
  | fuel + 1, done, cs =>
    match cs with
    | [] => none
    | '"' :: rest => some (String.ofList done.reverse, rest)
    | '\\' :: rest => (escape? rest).bind fun (c, rest) => stringTail? fuel (c.reverse ++ done) rest
    | c :: rest => if c.toNat < 0x20 then none else stringTail? fuel (c :: done) rest

/-- The fraction digits behind a whole number, if a point and at least one digit follow. -/
def fraction (cs : List Char) : List Char × List Char :=
  match cs with
  | '.' :: rest =>
    let (digits, rest') := Numeral.spanDigits rest
    if digits = [] then ([], cs) else (digits, rest')
  | _ => ([], cs)

/-- The exponent behind a number, if a letter and at least one digit follow. -/
def exponent (cs : List Char) : Option Int × List Char :=
  match cs with
  | e :: rest =>
    if e = 'e' ∨ e = 'E' then
      let (negative, unsigned) := match rest with
        | '-' :: r => (true, r)
        | '+' :: r => (false, r)
        | r => (false, r)
      let (digits, rest') := Numeral.spanDigits unsigned
      if digits = [] then (none, cs)
      else
        let n : Int := Text.decimalValue digits
        (some (if negative then -n else n), rest')
    else (none, cs)
  | [] => (none, cs)

/-- The digits in front of a number: a single zero, or digits that begin with none. -/
def wholeDigits (cs : List Char) : List Char × List Char :=
  match cs with
  | '0' :: rest => (['0'], rest)
  | _ => Numeral.spanDigits cs

/-- A number: an integer if neither a fraction nor an exponent follows, a float otherwise. -/
def number? (negative : Bool) (cs : List Char) : Option (Json × List Char) :=
  let (whole, rest) := wholeDigits cs
  if whole = [] then none
  else
    let (fractionDigits, rest) := fraction rest
    let (power, rest) := exponent rest
    if fractionDigits = [] ∧ power = none then
      if Numeral.digitLimit < whole.length then none
      else
        let n : Int := Text.decimalValue whole
        some (.int (if negative then -n else n), rest)
    else
      let mantissa := Text.decimalValue (whole ++ fractionDigits)
      let power := power.getD 0 - fractionDigits.length
      some (.float (Decimal.ofDecimal negative mantissa power), rest)

/-- A literal word or a number. -/
def scalar? (cs : List Char) : Option (Json × List Char) :=
  ((after? "null".toList cs).map (Json.null, ·)) <|>
  ((after? "true".toList cs).map (Json.bool true, ·)) <|>
  ((after? "false".toList cs).map (Json.bool false, ·)) <|>
  ((after? "NaN".toList cs).map (Json.float (Float.ofBits 0x7FF8000000000000), ·)) <|>
  ((after? "Infinity".toList cs).map (Json.float (Float.ofBits 0x7FF0000000000000), ·)) <|>
  ((after? "-Infinity".toList cs).map (Json.float (Float.ofBits 0xFFF0000000000000), ·)) <|>
  (match cs with
   | '-' :: rest => number? true rest
   | _ => number? false cs)

/-- The text of a string, behind its opening quote. -/
def string? (cs : List Char) : Option (String × List Char) :=
  stringTail? cs.length [] cs

/-- Why a text is not read. -/
inductive Failure where
  /-- It is no JSON. -/
  | malformed
  /-- Its values are nested too deep, in an object or in an array. -/
  | tooDeep (inObject : Bool)
deriving DecidableEq, Repr

/-- A value with what is left behind it. -/
abbrev Reading (α : Type) : Type := Except Failure (α × List Char)

/-- A value that has to be there. -/
def require {α : Type} : Option (α × List Char) → Reading α
  | some answer => .ok answer
  | none => .error .malformed

/-- A value made of the one that was read. -/
def Reading.map {α β : Type} (f : α → β) (r : Reading α) : Reading β :=
  match r with
  | .ok (a, rest) => .ok (f a, rest)
  | .error failure => .error failure

mutual

/-- A value, blanks in front of it skipped, with at most `depth` others around what is in it. -/
def value : Nat → Nat → List Char → Reading Json
  | 0, _, _ => .error .malformed
  | fuel + 1, depth, cs =>
    match skipBlanks cs with
    | '"' :: rest => (require (string? rest)).map .str
    | '[' :: rest =>
      match depth with
      | 0 => .error (.tooDeep false)
      | depth + 1 =>
        match skipBlanks rest with
        | ']' :: rest => .ok (.arr [], rest)
        | _ => (items fuel depth rest).map .arr
    | '{' :: rest =>
      match depth with
      | 0 => .error (.tooDeep true)
      | depth + 1 =>
        match skipBlanks rest with
        | '}' :: rest => .ok (.obj [], rest)
        | _ => (members fuel depth [] rest).map .obj
    | cs => require (scalar? cs)

/-- The items of an array up to its closing bracket. -/
def items : Nat → Nat → List Char → Reading (List Json)
  | 0, _, _ => .error .malformed
  | fuel + 1, depth, cs =>
    match value fuel depth cs with
    | .error failure => .error failure
    | .ok (j, rest) =>
      match skipBlanks rest with
      | ',' :: rest => (items fuel depth rest).map (j :: ·)
      | ']' :: rest => .ok ([j], rest)
      | _ => .error .malformed

/-- The members of an object up to its closing brace, behind those in `done`. -/
def members : Nat → Nat → List (String × Json) → List Char → Reading (List (String × Json))
  | 0, _, _, _ => .error .malformed
  | fuel + 1, depth, done, cs =>
    match skipBlanks cs with
    | '"' :: rest =>
      match string? rest with
      | none => .error .malformed
      | some (key, rest) =>
        match skipBlanks rest with
        | ':' :: rest =>
          match value fuel depth rest with
          | .error failure => .error failure
          | .ok (j, rest) =>
            let done := setMember done key j
            match skipBlanks rest with
            | ',' :: rest => members fuel depth done rest
            | '}' :: rest => .ok (done, rest)
            | _ => .error .malformed
        | _ => .error .malformed
    | _ => .error .malformed

end

/-- Reads a text that is one JSON value with blanks around it, whose arrays and objects are nested
at most `depth` times. -/
def readWithin (depth : Nat) (cs : List Char) : Except Failure Json :=
  match value (2 * cs.length + 1) depth cs with
  | .error failure => .error failure
  | .ok (j, rest) => if skipBlanks rest = [] then .ok j else .error .malformed

/-- Reads a text that is one JSON value with blanks around it. -/
def read? (s : String) : Option Json :=
  (readWithin (s.length + 1) s.toList).toOption

end LoadDispatch.Json
