import LoadDispatch.Text.Quoted

/-!
# Texts without bytes

A text is sent as bytes.  UTF-8 has none for a lone surrogate, and ASCII has none for what is beyond
it; a text with such characters is refused, and the refusal names the first of them and those that
follow it at once.  Where a text must not be refused, such characters are escaped.
-/

namespace LoadDispatch.Text

/-- Why a text has no bytes. -/
structure Unencodable where
  /-- The encoding. -/
  encoding : String
  /-- The code point of the first character without bytes. -/
  code : Nat
  /-- Where it stands. -/
  position : Nat
  /-- The number of characters without bytes from there on. -/
  count : Nat
  /-- What is wrong with them. -/
  reason : String
deriving DecidableEq, Repr

/-- The text of a refusal. -/
def Unencodable.message (u : Unencodable) : String :=
  let what :=
    if u.count = 1 then
      s!"character '{String.ofList (escapedCode u.code)}' in position {u.position}"
    else s!"characters in position {u.position}-{u.position + u.count - 1}"
  s!"'{u.encoding}' codec can't encode {what}: {u.reason}"

/-- Refuses a text with a code point that `bad` holds of. -/
def refusal? (encoding reason : String) (bad : Nat → Bool) (s : String) : Option Unencodable :=
  let codes := codePoints s.toList
  let behind := codes.dropWhile (!bad ·)
  behind.head?.map fun code => {
    encoding, reason, code
    position := codes.length - behind.length
    count := (behind.takeWhile bad).length }

/-- A text with an escape in place of each code point that `bad` holds of. -/
def withEscapes (bad : Nat → Bool) (s : String) : String :=
  String.ofList <| (codePoints s.toList).flatMap fun code =>
    if bad code then escapedCode code else ofCodePoint code

/-- Why a text has no bytes in UTF-8, if it has none. -/
def utf8Refusal? : String → Option Unencodable :=
  refusal? "utf-8" "surrogates not allowed" isSurrogate

/-- Why a text has no bytes in ASCII, if it has none. -/
def asciiRefusal? : String → Option Unencodable :=
  refusal? "ascii" "ordinal not in range(128)" fun code => 0x80 ≤ code

/-- Nothing is left behind the good code points just if there are no others. -/
theorem dropWhile_good_eq_nil_iff (bad : Nat → Bool) (codes : List Nat) :
    codes.dropWhile (!bad ·) = [] ↔ ∀ code ∈ codes, bad code = false := by
  induction codes with
  | nil => simp
  | cons code codes ih => cases h : bad code <;> simp [h, ih]

/-- A text has bytes just if none of its code points is refused. -/
theorem refusal?_eq_none_iff {encoding reason : String} {bad : Nat → Bool} {s : String} :
    refusal? encoding reason bad s = none ↔ ∀ code ∈ codePoints s.toList, bad code = false := by
  rw [← dropWhile_good_eq_nil_iff]
  simp [refusal?]

end LoadDispatch.Text
