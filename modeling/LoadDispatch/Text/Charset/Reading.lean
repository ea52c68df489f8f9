import LoadDispatch.Text.Decoding

/-!
# Reading bytes by a rule

Where a character takes more than one byte, an encoding is a rule that says what the bytes in front
are.  A reading applies the rule again and again; the rule may keep a state, for the encodings that
switch between character sets.

What a rule cannot read is one replacement character, and the reading goes on behind it.  Bytes that
end inside of a character are one replacement character together.  Two things stop a reading: a
character that is not complete after eight bytes, and a switch to a set that has no characters
where they are asked for.
-/

namespace LoadDispatch.Text

namespace Charset

/-- Why bytes have no text. -/
inductive Unreadable where
  /-- The bytes lack the mark that the encoding begins with. -/
  | markMissing (encoding : String)
  /-- A character is not complete after as many bytes as are kept for it. -/
  | unfinished
  /-- A set of characters is asked for one where it has none. -/
  | noCharacters
  /-- A byte beyond ASCII stands where the encoding has digits. -/
  | beyondAscii (byte : UInt8) (position : Nat)
  /-- The encoding refuses to replace what it cannot read. -/
  | noReplacement
  /-- The encoding is the one that refuses everything. -/
  | undefined
  /-- The encoding turns bytes into bytes. -/
  | noText
  /-- The encoding turns text into text. -/
  | noBytes
deriving DecidableEq, Repr

/-- The text of bytes in some encoding. -/
abbrev Decoded := Except Unreadable (List Char)

end Charset

/-- An encoding: the text of its bytes. -/
abbrev Charset := List UInt8 → Charset.Decoded

namespace Charset

/-- What a rule finds in front of bytes, of which there is at least one. -/
inductive Front where
  /-- Characters, which may be none, written by the first byte and `more` others. -/
  | chars (cs : List Char) (more : Nat)
  /-- The first byte and `more` others are no character. -/
  | gap (more : Nat)
  /-- The bytes end inside of a character. -/
  | short
  /-- Nothing can be read any more. -/
  | stuck

/-- One character of one byte. -/
def Front.one (c : Char) : Front := .chars [c] 0

/-- A character of one byte and `more` others, or a gap of one byte. -/
def Front.ofChar? (more : Nat) : Option Char → Front
  | some c => .chars [c] more
  | none => .gap 0

/-- Characters of one byte and `more` others, or a gap of one byte. -/
def Front.ofChars? (more : Nat) : Option (List Char) → Front
  | some cs => .chars cs more
  | none => .gap 0

/-- A rule with a state: what it finds in front of a byte and the bytes behind it. -/
abbrev Rule (σ : Type) := σ → UInt8 → List UInt8 → Front × σ

/-- The bytes that are kept of a character that is not complete. -/
def keptBytes : Nat := 8

/-- Reads bytes by a rule, behind `skip` bytes that belong to what was read before. -/
def readFrom {σ : Type} (rule : Rule σ) : σ → Nat → List UInt8 → Decoded
  | _, _, [] => .ok []
  | s, skip + 1, _ :: rest => readFrom rule s skip rest
  | s, 0, b :: rest =>
    match rule s b rest with
    | (.chars cs more, s) => (readFrom rule s more rest).map (cs ++ ·)
    | (.gap more, s) => (readFrom rule s more rest).map (replacement :: ·)
    | (.short, _) => if rest.length < keptBytes then .ok [replacement] else .error .unfinished
    | (.stuck, _) => .error .noCharacters

/-- Reads bytes by a rule without state. -/
def readBy (rule : UInt8 → List UInt8 → Front) : Charset :=
  readFrom (fun _ b rest => (rule b rest, ())) () 0

/-- The front of a character of two bytes, given the second as a function of it. -/
def Front.two (rest : List UInt8) (read : Nat → Front) : Front :=
  match rest with
  | [] => .short
  | b :: _ => read b.toNat

end Charset

end LoadDispatch.Text
