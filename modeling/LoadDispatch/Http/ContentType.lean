import LoadDispatch.Text.Blank
import LoadDispatch.Text.Charset.Names

/-!
# The encoding that a content type names

A content type is a list of items between semicolons; behind the first they are parameters, a name
and a value with an equals sign between them.  The value of `charset` names an encoding.  A value
may be in quotes, in which a semicolon counts as text and a backslash in front of a quote or a
backslash is left out.

A parameter may come in segments, `charset*0`, `charset*1` and so on, which are put together by
their numbers, behind all other parameters.  A segment whose name ends in an asterisk has its bytes
percent-encoded; then the whole value may begin with the encoding and the language that it is itself
written in, each with an apostrophe behind it.  The segments of one parameter must not mix names
with and without a number.
-/

namespace LoadDispatch.Http.ContentType

/-- Whether the text in front of a semicolon ends inside of quotes: it has an odd number of quotes
without a backslash in front. -/
def endsQuoted (item : List Char) : Bool :=
  let escaped := ((item.zip (item.drop 1)).filter (· == ('\\', '"'))).length
  (item.count '"' - escaped) % 2 == 1

/-- The items between semicolons, given the one that is being read.  A semicolon inside of quotes
belongs to the item. -/
def items : List Char → List Char → List (List Char)
  | item, [] => [item]
  | item, c :: cs =>
    if c = ';' ∧ ¬ endsQuoted item then item :: items [] cs else items (item ++ [c]) cs

/-- A text without blanks at its ends. -/
def strip (cs : List Char) : List Char :=
  Text.stripWhile Text.isBlank cs

/-- The name and the value of an item.  The value is empty if there is none. -/
def nameAndValue (item : List Char) : List Char × List Char :=
  let name := item.takeWhile (· != '=')
  ((strip name).map Char.toLower, strip (item.drop (name.length + 1)))

/-- `a` and `b` replaced by `c` wherever they stand together. -/
def join (a b c : Char) : List Char → List Char
  | x :: y :: rest => if x = a ∧ y = b then c :: join a b c rest else x :: join a b c (y :: rest)
  | cs => cs

/-- The characters inside of a pair of brackets, if a text has them at its ends. -/
def inside? (opening closing : Char) (cs : List Char) : Option (List Char) :=
  if 1 < cs.length ∧ cs.head? = some opening ∧ cs.getLast? = some closing then
    some (cs.drop 1).dropLast
  else none

/-- A value without its quotes or its angle brackets. -/
def unquote (cs : List Char) : List Char :=
  match inside? '"' '"' cs with
  | some inner => join '\\' '"' '"' (join '\\' '\\' '\\' inner)
  | none => (inside? '<' '>' cs).getD cs

/-- A character of the name of a segment. -/
def isNameChar (c : Char) : Bool :=
  c.isAlphanum || c == '_'

/-- A part of a parameter. -/
structure Segment where
  /-- The number, if it has one. -/
  number : Option Nat
  /-- The text. -/
  text : List Char
  /-- Whether the bytes are percent-encoded. -/
  encoded : Bool

/-- The name of the parameter that an item belongs to, and the item as a part of it. -/
def segment? (name value : List Char) : Option (List Char × Segment) :=
  let base := name.takeWhile isNameChar
  match name.drop base.length with
  | '*' :: rest =>
    let digits := rest.takeWhile Char.isDigit
    let ending := rest.drop digits.length
    if base = [] ∨ (ending ≠ [] ∧ (digits = [] ∨ ending ≠ ['*'])) then none
    else
      some (base, {
        number := if digits = [] then none else some (Text.decimalValue digits)
        text := unquote value
        encoded := name.getLast? = some '*' })
  | _ => none

/-- Whether one segment stands in front of another: by number, then by text. -/
def Segment.isBefore (a b : Segment) : Bool :=
  match a.number, b.number with
  | some m, some n =>
    m < n || (m == n && (String.ofList a.text < String.ofList b.text ||
      (a.text == b.text && (!a.encoded || b.encoded))))
  | _, _ =>
    String.ofList a.text < String.ofList b.text || (a.text == b.text && (!a.encoded || b.encoded))

/-- A text with its percent-encoded bytes as characters with the same numbers. -/
def percentDecode : List Char → List Char
  | '%' :: a :: b :: rest =>
    match Text.hexValue? a, Text.hexValue? b with
    | some high, some low => Char.ofNat (16 * high + low) :: percentDecode rest
    | _, _ => '%' :: percentDecode (a :: b :: rest)
  | c :: rest => c :: percentDecode rest
  | [] => []

/-- A text as bytes, which its characters are numbers of. -/
def numberBytes (cs : List Char) : List UInt8 :=
  cs.map fun c => UInt8.ofNat c.toNat

/-- The encoding that a text is written in, if it says so, and the text behind that and its
language. -/
def declared? (cs : List Char) : Option (List Char × List Char) :=
  match List.splitOn '\'' cs with
  | charset :: _ :: text :: more => some (charset, ['\''].intercalate (text :: more))
  | _ => none

/-- A text in the encoding that it is written in.  If it cannot be read in it, it stays as it is. -/
def readDeclared (charset text : List Char) : List Char :=
  let name := if charset = [] then "us-ascii" else String.ofList charset
  match Text.Charset.ofName? name with
  | none => text
  | some charset =>
    match charset (numberBytes text) with
    | .ok cs => if cs.contains Text.replacement then text else cs
    | .error _ => text

/-- The whole value of a parameter in segments. -/
def wholeValue (segments : List Segment) : List Char :=
  let parts := (segments.mergeSort Segment.isBefore).map fun s =>
    if s.encoded then percentDecode s.text else s.text
  if segments.any (·.encoded) then
    match declared? parts.flatten with
    | some (charset, text) => readDeclared charset text
    | none => parts.flatten
  else parts.flatten

/-- Why a content type cannot be read: segments with and without a number, which have no order.
Tells whether the one without number comes later. -/
structure Unordered where
  /-- Whether the later one has no number. -/
  laterIsBare : Bool
deriving DecidableEq, Repr

/-- Refuses segments without an order. -/
def checkOrder (segments : List Segment) : Except Unordered Unit :=
  match (segments.zip (segments.drop 1)).find? fun (a, b) => a.number.isSome != b.number.isSome with
  | some (_, later) => .error ⟨later.number.isNone⟩
  | none => .ok ()

/-- The names of parameters in segments, in order. -/
def segmentNames (segments : List (List Char × Segment)) : List (List Char) :=
  (segments.map (·.1)).eraseDups

/-- The value of `charset` in a content type. -/
def charsetValue? (contentType : String) : Except Unordered (Option (List Char)) := do
  let all := (items [] contentType.toList).map (nameAndValue ∘ strip)
  let charset := "charset".toList
  let parameters := all.drop 1
  let segments := parameters.filterMap fun (name, value) => segment? name value
  for name in segmentNames segments do
    checkOrder ((segments.filter (·.1 == name)).map (·.2))
  let plain := parameters.filter fun (name, value) => (segment? name value).isNone
  let own := (segments.filter (·.1 == charset)).map (·.2)
  match (all.take 1 ++ plain).find? (·.1 == charset) with
  | some (_, value) => pure (some (unquote value))
  | none => pure (if own = [] then none else some (wholeValue own))

/-- The encoding that a content type names, if there is one of that name. -/
def charset? (contentType : String) : Except Unordered (Option Text.Charset) := do
  match ← charsetValue? contentType with
  | some value =>
    if value.all fun c => c.toNat < 0x80 then pure (Text.Charset.ofName? (String.ofList value))
    else pure none
  | none => pure none

end LoadDispatch.Http.ContentType
