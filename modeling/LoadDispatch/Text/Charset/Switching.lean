import LoadDispatch.Text.Charset.Chinese
import LoadDispatch.Text.Charset.IsoPages
import LoadDispatch.Text.Charset.Japanese
import LoadDispatch.Text.Charset.KsX1001

/-!
# Encodings that switch

ISO 2022 writes all characters with seven bits.  An escape sequence says which set of characters the
bytes behind it belong to.  There are three places for a set: the main one, the one that the control
characters *shift out* and *shift in* turn to and from, and a third one that is used for a single
character.  An encoding of this family says which sets there are (`Switching.sets`) and which of the
places.

An escape sequence ends with a capital letter or `@`.  One that starts in another way than the
standard knows is text, up to its end.
-/

namespace LoadDispatch.Text.Charset

/-- The sets of characters. -/
inductive CharacterSet where
  | ascii
  | roman
  | katakana
  | kanji
  | supplement
  | firstPlane (edition : Edition)
  | secondPlane (edition : Edition)
  | korean
  | chinese
  /-- The upper half of Latin-1. -/
  | latin
  /-- The upper half of the Greek page. -/
  | greek
deriving DecidableEq, Repr

/-- A set and how an escape sequence names it. -/
structure Designation where
  /-- Whether a character takes two bytes. -/
  wide : Bool
  /-- The last byte of the escape sequence. -/
  mark : Char
  /-- The set. -/
  set : CharacterSet
deriving DecidableEq, Repr

/-- An encoding of the family. -/
structure Switching where
  /-- The sets beside ASCII. -/
  sets : List Designation
  /-- Whether control characters shift between the first two places. -/
  shifts : Bool := false
  /-- Whether there is a third place. -/
  single : Bool := false
  /-- Whether the revision of the kanji set may be announced. -/
  revisions : Bool := true

/-- Where a text is. -/
structure SwitchState where
  /-- The set in the main place. -/
  main : CharacterSet := .ascii
  /-- The set in the place that is shifted to. -/
  other : CharacterSet := .ascii
  /-- The set for single characters. -/
  third : CharacterSet := .ascii
  /-- Whether the text is shifted out. -/
  shifted : Bool := false
  /-- Whether the text is inside of a foreign escape sequence. -/
  foreign : Bool := false

/-- The number of bytes of an escape sequence at most. -/
def longestEscape : Nat := 16

/-- The byte that an escape sequence begins with. -/
def escapeByte : UInt8 := 0x1B

/-- Whether a byte ends an escape sequence. -/
def endsEscape (b : UInt8) : Bool :=
  (0x41 ≤ b && b ≤ 0x5A) || b == 0x40

/-- The length of the escape sequence that stands behind `passed` bytes of it: `none` if the bytes
end before it does, and 0 if it is too long.  The announcement of a revision, `&@`, does not end
it, and neither does the byte behind. -/
def escapeLength? (revisions : Bool) (passed : Nat) (bytes : List UInt8) : Option Nat :=
  if longestEscape ≤ passed then some 0
  else
    match bytes with
    | [] => none
    | b :: rest =>
      if endsEscape b then some (passed + 1)
      else if revisions ∧ b = 0x26 ∧ rest.head? = some 0x40 then
        escapeLength? revisions (passed + 3) (rest.drop 2)
      else escapeLength? revisions (passed + 1) rest
termination_by bytes.length
decreasing_by all_goals (simp; try omega)

namespace CharacterSet

/-- The number of bytes of a character. -/
def width : CharacterSet → Nat
  | .ascii | .roman | .katakana | .latin | .greek => 1
  | .kanji | .supplement | .firstPlane _ | .secondPlane _ | .korean | .chinese => 2

/-- The characters of one or two bytes in a set, as the main place shows them.  The upper halves
have none there. -/
def chars? (first second : Nat) : CharacterSet → Option (List Char)
  | .ascii => some [Char.ofNat first]
  | .roman => some [romanChar first]
  | .katakana => (halfKatakana? (first + 0x80)).map ([·])
  | .kanji => (jisX0208.char? first second).map ([·])
  | .supplement => (jisX0212.char? first second).map ([·])
  | .firstPlane edition => firstPlane? edition first second
  | .secondPlane edition => (secondPlane? edition first second).map ([·])
  | .korean => (ksX1001.char? first second).map ([·])
  | .chinese => (gb2312? (first + 0x80) (second + 0x80)).map ([·])
  | .latin | .greek => none

/-- The front of a single character of a set, as the third place shows it. -/
def single (b : UInt8) : CharacterSet → Front
  | .ascii => if b.toNat < 0x80 then .chars [Char.ofNat b.toNat] 2 else .gap 2
  | .latin => if b.toNat < 0x80 then .chars [Char.ofNat (b.toNat + 0x80)] 2 else .gap 2
  | .greek =>
    let upper := b ^^^ 0x80
    -- three signs came later than this family of encodings
    let c := if upper ∈ [0xA4, 0xA5, 0xAA] then replacement else CodePage.part7.char upper
    if c = replacement then .gap 2 else .chars [c] 2
  | _ => .stuck

end CharacterSet

namespace Switching

/-- The set that an escape sequence names. -/
def set? (s : Switching) (wide : Bool) (mark : UInt8) : Option CharacterSet :=
  let mark := Char.ofNat mark.toNat
  if ¬ wide ∧ mark = 'B' then some .ascii
  else (s.sets.find? fun d => d.wide == wide && d.mark == mark).map (·.set)

/-- What an escape sequence does, if it has a meaning. -/
def designate? (s : Switching) (state : SwitchState) (sequence : List UInt8) : Option SwitchState :=
  let main (wide : Bool) (mark : UInt8) :=
    (s.set? wide mark).map fun set => { state with main := set }
  let other (wide : Bool) (mark : UInt8) :=
    (s.set? wide mark).map fun set => { state with other := set }
  match sequence with
  | [_, 0x24, mark] => main true mark
  | [_, 0x28, mark] => main false mark
  | [_, 0x29, mark] => other false mark
  | [_, 0x2E, mark] =>
    if s.single then (s.set? false mark).map fun set => { state with third := set } else none
  | [_, 0x24, 0x28, mark] => main true mark
  | [_, 0x24, 0x29, mark] => other true mark
  | [_, _, _, 0x1B, 0x24, 0x42] => if s.revisions then main true 0x42 else none
  | _ => none

/-- Whether a byte behind the escape byte begins a sequence of the standard. -/
def isIntermediate (b : UInt8) : Bool :=
  b ∈ [0x28, 0x29, 0x24, 0x2E, 0x26]

/-- What stands in front of an escape byte and the bytes behind it. -/
def escapeFront (s : Switching) (state : SwitchState) (rest : List UInt8) : Front × SwitchState :=
  match rest with
  | [] => (.short, state)
  | second :: rest' =>
    if isIntermediate second then
      match escapeLength? s.revisions 1 rest with
      | none => (.short, state)
      | some 0 => (.gap 0, state)
      | some (more + 1) =>
        match s.designate? state (escapeByte :: rest.take more) with
        | some state => (.chars [] more, state)
        | none => (.gap more, state)
    else if s.single ∧ second = 0x4E then
      match rest' with
      | [] => (.short, state)
      | third :: _ => (state.third.single third, state)
    else (.one '\x1b', { state with foreign := true })

/-- What stands in front of a byte that is no control character. -/
def characterFront (set : CharacterSet) (b : UInt8) (rest : List UInt8) : Front :=
  if rest.length + 1 < set.width then .short
  else
    match set.chars? b.toNat ((rest.head?.map (·.toNat)).getD 0) with
    | some cs => .chars cs (set.width - 1)
    | none => .gap (set.width - 1)

/-- The rule of an encoding of the family. -/
def rule (s : Switching) : Rule SwitchState := fun state b rest =>
  let plain := Front.one (Char.ofNat b.toNat)
  if state.foreign then (plain, { state with foreign := !endsEscape b })
  else if b = escapeByte then s.escapeFront state rest
  else if s.shifts ∧ b = 0x0F then (.chars [] 0, { state with shifted := false })
  else if s.shifts ∧ b = 0x0E then (.chars [] 0, { state with shifted := true })
  else if b = 0x0A then (plain, { state with shifted := false })
  else if b.toNat < 0x20 then (plain, state)
  else if 0x80 ≤ b.toNat then (.gap 0, state)
  else (characterFront (if state.shifted then state.other else state.main) b rest, state)

/-- Reads an encoding of the family. -/
def read (s : Switching) : Charset :=
  readFrom s.rule {} 0

/-! ## The encodings -/

/-- The kanji set under its present mark. -/
def kanjiSet : Designation := ⟨true, 'B', .kanji⟩

/-- The sets of the first Japanese encoding. -/
def japaneseSets : List Designation := [kanjiSet, ⟨true, '@', .kanji⟩, ⟨false, 'J', .roman⟩]

/-- The supplementary kanji. -/
def supplementSet : Designation := ⟨true, 'D', .supplement⟩

/-- The Japanese encoding. -/
def japanese : Switching where
  sets := japaneseSets

/-- The Japanese encoding with the supplementary kanji. -/
def japanese1 : Switching where
  sets := supplementSet :: japaneseSets

/-- The Japanese encoding with sets of other languages. -/
def japanese2 : Switching where
  sets := supplementSet :: ⟨true, 'C', .korean⟩ :: ⟨true, 'A', .chinese⟩ :: ⟨false, 'A', .latin⟩ ::
    ⟨false, 'F', .greek⟩ :: japaneseSets
  single := true

/-- The Japanese encoding with JIS X 0213 of 2000. -/
def japanese3 : Switching where
  sets := [kanjiSet, ⟨true, 'O', .firstPlane .y2000⟩, ⟨true, 'P', .secondPlane .y2000⟩]

/-- The Japanese encoding with JIS X 0213 of 2004. -/
def japanese2004 : Switching where
  sets := [kanjiSet, ⟨true, 'Q', .firstPlane .y2004⟩, ⟨true, 'P', .secondPlane .y2004⟩]

/-- The Japanese encoding with katakana of a single byte. -/
def japaneseExtended : Switching where
  sets := supplementSet :: ⟨false, 'I', .katakana⟩ :: japaneseSets

/-- The Korean encoding. -/
def korean : Switching where
  sets := [⟨true, 'C', .korean⟩]
  shifts := true
  revisions := false

end Switching

end LoadDispatch.Text.Charset
