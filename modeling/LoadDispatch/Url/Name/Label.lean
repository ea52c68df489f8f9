import LoadDispatch.Text.Composition.Basic
import LoadDispatch.Text.Mark
import LoadDispatch.Text.Punycode
import LoadDispatch.Text.Quoted
import LoadDispatch.Url.Name.Direction
import LoadDispatch.Url.Name.Letters
import LoadDispatch.Url.Name.Script

/-!
# The labels of a name

The name of a host is a sequence of labels with full stops between them.  `checkLabel` refuses a
label that breaks one of the rules for names beyond ASCII, which are looked at in this order: the
label is composed; it has hyphens only where they may be; it does not begin with a mark; it has
only characters of names, and those that depend on their neighbours only beside the right ones; and
the directions of its characters go together.
-/

namespace LoadDispatch.Url

/-- Why a text is no name of a host. -/
inductive NameFault where
  /-- The name is too long. -/
  | nameTooLong
  /-- A label is too long. -/
  | labelTooLong
  /-- There is no label. -/
  | noLabels
  /-- A label is empty. -/
  | emptyLabel
  /-- A label in ASCII form has nothing behind its mark. -/
  | nothingEncoded
  /-- A label in ASCII form ends in a hyphen. -/
  | encodedHyphen
  /-- A label in ASCII form cannot be read. -/
  | unreadableLabel
  /-- A label is not composed. -/
  | notComposed
  /-- A label has hyphens in the places that tell the ASCII form. -/
  | hyphensInside
  /-- A label begins or ends with a hyphen. -/
  | hyphenAtEnd
  /-- A label begins with a mark. -/
  | initialMark
  /-- A character that no name has. -/
  | foreign (code position : Nat) (label : List Char)
  /-- A joiner beside the wrong characters. -/
  | joiner (code position : Nat) (label : List Char)
  /-- A character beside the wrong ones. -/
  | context (code position : Nat) (label : List Char)
  /-- A character of unknown direction. -/
  | unknownDirection (position : Nat) (label : List Char)
  /-- The first character gives no direction. -/
  | firstDirection (label : List Char)
  /-- A character goes against the direction of its label. -/
  | direction (position : Nat) (leftward : Bool)
  /-- Digits of two kinds. -/
  | mixedDigits
  /-- The last character goes against the direction of its label. -/
  | lastDirection
deriving DecidableEq, Repr

/-- A code point in the usual form. -/
def codeName (code : Nat) : String :=
  "U+" ++ String.ofList ((Text.hexField 4 code).map Char.toUpper)

/-- The text of a fault. -/
def NameFault.message : NameFault → String
  | .nameTooLong => "Domain too long"
  | .labelTooLong => "Label too long"
  | .noLabels => "Empty domain"
  | .emptyLabel => "Empty Label"
  | .nothingEncoded => "Malformed A-label, no Punycode eligible content found"
  | .encodedHyphen => "A-label must not end with a hyphen"
  | .unreadableLabel => "Invalid A-label"
  | .notComposed => "Label must be in Normalization Form C"
  | .hyphensInside => "Label has disallowed hyphens in 3rd and 4th position"
  | .hyphenAtEnd => "Label must not start or end with a hyphen"
  | .initialMark => "Label begins with an illegal combining character"
  | .foreign code position label =>
    s!"Codepoint {codeName code} at position {position} of " ++
      s!"{Text.quoted (String.ofList label)} not allowed"
  | .joiner code position label =>
    s!"Unknown codepoint adjacent to joiner {codeName code} at position {position} in " ++
      Text.quoted (String.ofList label)
  | .context code position label =>
    s!"Codepoint {codeName code} not allowed at position {position} in " ++
      Text.quoted (String.ofList label)
  | .unknownDirection position label =>
    s!"Unknown directionality in label {Text.quoted (String.ofList label)} at position {position}"
  | .firstDirection label =>
    s!"First codepoint in label {Text.quoted (String.ofList label)} must be directionality L, R " ++
      "or AL"
  | .direction position leftward =>
    let way := if leftward then "right-to-left" else "left-to-right"
    s!"Invalid direction for codepoint at position {position} in a {way} label"
  | .mixedDigits => "Can not mix numeral types in a right-to-left label"
  | .lastDirection => "Label ends with illegal codepoint directionality"

/-! ## Characters -/

/-- Whether a character has no name in the tables that joiners are looked up with: those whose
direction is unknown, and the ideographs of Tangut. -/
def isNameless (code : Nat) : Bool :=
  direction code == .unknown || Text.inRanges [(0x17000, 0x187F7), (0x18D00, 0x18D08)] code

/-- Whether the nearest code point that is not passed over joins on one of some sides. -/
def joins (sides : List Joining) (codes : List Nat) : Bool :=
  match (codes.dropWhile (joining? · == some .passed)).head?.bind joining? with
  | some side => sides.contains side
  | none => false

/-- The class of the marks that take the vowel from a letter. -/
def vowelKiller : Nat := 9

/-- Whether a joiner may stand between others, the ones in front in reverse order: behind a mark
that takes the vowel from a letter, or, if it keeps letters apart, between two that would join. -/
def joinerFits (code : Nat) (before behind : List Nat) : Bool :=
  match before.head? with
  | some last =>
    Text.combiningClass last == vowelKiller ||
      (code == 0x200C && !(Text.combiningClass last == 0 && isNameless last) &&
        joins [.behind, .both] before && joins [.front, .both] behind)
  | none => false

/-- Whether a character that depends on its neighbours may stand between others, the ones in front
in reverse order; `none` for all other characters. -/
def contextFits? (code : Nat) (before behind : List Nat) : Option Bool :=
  let all := before ++ behind
  if code = 0xB7 then some (before.head? == some 0x6C && behind.head? == some 0x6C)
  else if code = 0x375 then some (behind.head?.any isGreek)
  else if code = 0x5F3 ∨ code = 0x5F4 then some (before.head?.any isHebrew)
  else if code = 0x30FB then some (all.any fun c => c != 0x30FB && isJapanese c)
  else if 0x660 ≤ code ∧ code ≤ 0x669 then some (!all.any fun c => 0x6F0 ≤ c && c ≤ 0x6F9)
  else if 0x6F0 ≤ code ∧ code ≤ 0x6F9 then some (!all.any fun c => 0x660 ≤ c && c ≤ 0x669)
  else none

/-- Refuses a character that a label must not have where it stands. -/
def checkCode (label : List Char) (code : Nat) (before behind : List Nat) :
    Except NameFault Unit :=
  let position := before.length + 1
  if isNameCode code then .ok ()
  else if code = 0x200C ∨ code = 0x200D then
    if joinerFits code before behind then .ok () else .error (.joiner code position label)
  else
    match contextFits? code before behind with
    | some true => .ok ()
    | some false => .error (.context code position label)
    | none => .error (.foreign code position label)

/-- Refuses the first character that a label must not have, behind others in reverse order. -/
def checkCodes (label : List Char) : List Nat → List Nat → Except NameFault Unit
  | _, [] => .ok ()
  | before, code :: behind => do
    checkCode label code before behind
    checkCodes label (code :: before) behind

/-! ## Directions -/

/-- How far the directions of a label are read. -/
structure Directions where
  /-- The place of the next character. -/
  position : Nat := 1
  /-- Whether the label may end here. -/
  mayEnd : Bool := false
  /-- The kind of digits so far. -/
  digits : Option Direction := none

/-- Takes one more direction in a label that goes to the left or to the right. -/
def Directions.take (leftward : Bool) (s : Directions) (d : Direction) :
    Except NameFault Directions :=
  let against :=
    if leftward then d == .left else d == .right || d == .arabic || d == .arabicDigit
  let ends :=
    if leftward then d == .right || d == .arabic || d == .digit || d == .arabicDigit
    else d == .left || d == .digit
  let isDigit := leftward && (d == .digit || d == .arabicDigit)
  if against then .error (.direction s.position leftward)
  else if isDigit && s.digits.any (· != d) then .error .mixedDigits
  else
    .ok {
      position := s.position + 1
      mayEnd := if ends then true else if d == .mark then s.mayEnd else false
      digits := if isDigit then some d else s.digits }

/-- Refuses a label whose directions do not go together.  A label that goes to the right all the way
is not looked at. -/
def checkDirections (label : List Char) (ds : List Direction) : Except NameFault Unit :=
  if ds.contains .unknown then
    .error (.unknownDirection ((ds.takeWhile (· != .unknown)).length + 1) label)
  else if ds.all fun d => d != .right && d != .arabic && d != .arabicDigit then .ok ()
  else
    let first := ds.head?.getD .left
    if first ≠ .left ∧ first ≠ .right ∧ first ≠ .arabic then .error (.firstDirection label)
    else
      match ds.foldlM (Directions.take (first != .left)) {} with
      | .error fault => .error fault
      | .ok s => if s.mayEnd then .ok () else .error .lastDirection

/-! ## Labels -/

/-- The greatest number of characters of a name with the full stop at its end. -/
def nameLimit : Nat := 254

/-- The greatest number of characters of a label in ASCII form. -/
def labelLimit : Nat := 63

/-- What a label in ASCII form begins with. -/
def asciiMark : List Char := ['x', 'n', '-', '-']

/-- Refuses what is not a label. -/
def checkLabel (label : List Char) : Except NameFault Unit := do
  let codes := Text.codePoints label
  if codes = [] then throw .emptyLabel
  if nameLimit < codes.length then throw .labelTooLong
  if ¬ Text.isComposed codes then throw .notComposed
  if (label.drop 2).take 2 = ['-', '-'] then throw .hyphensInside
  if label.head? = some '-' ∨ label.getLast? = some '-' then throw .hyphenAtEnd
  if codes.head?.any Text.isMark then throw .initialMark
  checkCodes label [] codes
  checkDirections label (codes.map direction)

/-- The label that a label in ASCII stands for. -/
def readLabel? (label : List Char) : Except NameFault (List Char) :=
  let small := label.map Char.toLower
  if asciiMark.isPrefixOf small then
    let encoded := small.drop asciiMark.length
    if encoded = [] then .error .nothingEncoded
    else if encoded.getLast? = some '-' then .error .encodedHyphen
    else
      match Text.Punycode.decode? encoded with
      | none => .error .unreadableLabel
      | some codes =>
        let text := Text.ofCodePoints codes
        (checkLabel text).map fun _ => text
  else (checkLabel small).map fun _ => small

/-- A label in its ASCII form. -/
def writeLabel? (label : List Char) : Except NameFault (List Char) := do
  let written ←
    if label.all fun c => Text.isAscii c.toNat then do
      let _ ← readLabel? label
      pure label
    else do
      checkLabel label
      pure (asciiMark ++ Text.Punycode.encode (Text.codePoints label))
  if labelLimit < written.length then throw .labelTooLong
  pure written

end LoadDispatch.Url
