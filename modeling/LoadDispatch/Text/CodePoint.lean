/-!
# Code points

A text of this library is a sequence of code points, and it may hold *lone surrogates*.  The code
points from `U+D800` to `U+DFFF` are surrogates: two of them, a high one and a low one, write one
character beyond `U+FFFF`, and alone they are no character.  The texts that services send hold lone
ones all the same, in a JSON escape such as `\ud800` for instance, and such a text is carried
through a load like any other; only when it has to be written as bytes there is no way to do so.

A `String` has no place for them, so a lone surrogate is kept as its *stand-in*, the character for
private use in the last plane with the same low sixteen bits.  A character that could be taken for a
stand-in is kept behind a mark, and the mark itself too.  `ofCodePoints` writes code points in this
way and `codePoints` reads them; `codePoints_ofCodePoints` says that nothing is lost.
-/

namespace LoadDispatch.Text

/-- Whether a code point is a surrogate. -/
def isSurrogate (code : Nat) : Bool :=
  0xD800 ≤ code && code < 0xE000

/-- How far the stand-in of a surrogate is from it. -/
def standInOffset : Nat := 0x100000

/-- The code point of the mark in front of a character that stands for itself. -/
def markCode : Nat := 0x10D7FF

/-- Whether a code point is the mark's or a stand-in's. -/
def isReserved (code : Nat) : Bool :=
  markCode ≤ code && code < 0x10E000

/-- A code point as it is kept in a text. -/
def ofCodePoint (code : Nat) : List Char :=
  if isSurrogate code then [Char.ofNat (standInOffset + code)]
  else if isReserved code then [Char.ofNat markCode, Char.ofNat code]
  else [Char.ofNat code]

/-- Code points as they are kept in a text. -/
def ofCodePoints (codes : List Nat) : List Char :=
  codes.flatMap ofCodePoint

/-- The code points that the characters of a text stand for. -/
def codePoints : List Char → List Nat
  | [] => []
  | c :: rest =>
    if c.toNat = markCode then
      match rest with
      | [] => [markCode]
      | d :: rest => d.toNat :: codePoints rest
    else if isReserved c.toNat then (c.toNat - standInOffset) :: codePoints rest
    else c.toNat :: codePoints rest

/-- A text whose characters all stand for themselves, as it is kept. -/
def ofCharacters (s : String) : String :=
  String.ofList (ofCodePoints (s.toList.map Char.toNat))

/-- The code point of a pair of surrogates. -/
def pairCode (high low : Nat) : Nat :=
  0x10000 + (high - 0xD800) * 0x400 + (low - 0xDC00)

/-- Whether a text has no lone surrogate. -/
def isWellFormed (s : String) : Bool :=
  (codePoints s.toList).all (!isSurrogate ·)

/-- The bytes of a text without lone surrogates in UTF-8. -/
def utf8Bytes (s : String) : List UInt8 :=
  (codePoints s.toList).flatMap fun code => String.utf8EncodeChar (Char.ofNat code)

/-- The number of a character that is made of one. -/
theorem toNat_ofNat {code : Nat} (h : code < 0x110000) (hs : isSurrogate code = false) :
    (Char.ofNat code).toNat = code := by
  have hv : code.isValidChar := by
    simp only [isSurrogate, Bool.and_eq_false_iff, decide_eq_false_iff_not] at hs
    simp only [Nat.isValidChar]
    omega
  have hchar : Char.ofNat code = Char.ofNatAux code hv := dif_pos hv
  rw [hchar]
  rfl

/-- A stand-in is reserved, and not the mark. -/
theorem isReserved_standIn {code : Nat} (h : isSurrogate code = true) :
    isReserved (standInOffset + code) = true ∧ standInOffset + code ≠ markCode ∧
      isSurrogate (standInOffset + code) = false ∧ standInOffset + code < 0x110000 := by
  have range : 0xD800 ≤ code ∧ code < 0xE000 := by simpa [isSurrogate] using h
  have low : ¬ standInOffset + code < 0xE000 := by simp only [standInOffset]; omega
  have high : standInOffset + code < 0x10E000 := by simp only [standInOffset]; omega
  have mark : markCode < standInOffset + code := by simp only [standInOffset, markCode]; omega
  refine ⟨?_, Nat.ne_of_gt mark, ?_, by omega⟩
  · simp [isReserved, high, Nat.le_of_lt mark]
  · simp [isSurrogate, low]

/-- A code point reads back in front of others. -/
theorem codePoints_ofCodePoint_append {code : Nat} (h : code < 0x110000) (rest : List Char) :
    codePoints (ofCodePoint code ++ rest) = code :: codePoints rest := by
  have hm : (Char.ofNat markCode).toNat = markCode := toNat_ofNat (by decide) (by decide)
  cases hs : isSurrogate code with
  | true =>
    obtain ⟨hr, hne, hns, hlt⟩ := isReserved_standIn hs
    have hn := toNat_ofNat hlt hns
    rw [ofCodePoint, if_pos hs, List.singleton_append, codePoints.eq_def]
    simp [hn, hne, hr]
  | false =>
    have hn := toNat_ofNat h hs
    cases hr : isReserved code with
    | true => simp [ofCodePoint, hs, hr, codePoints, hm, hn]
    | false =>
      have hne : code ≠ markCode := by
        rintro rfl
        simp [isReserved, markCode] at hr
      rw [ofCodePoint, if_neg (by simp [hs]), if_neg (by simp [hr]), List.singleton_append,
        codePoints.eq_def]
      simp [hn, hne, hr]

/-- Code points read back. -/
theorem codePoints_ofCodePoints {codes : List Nat} (h : ∀ code ∈ codes, code < 0x110000) :
    codePoints (ofCodePoints codes) = codes := by
  induction codes with
  | nil => simp [ofCodePoints, codePoints]
  | cons code codes ih =>
    have here := codePoints_ofCodePoint_append (h code List.mem_cons_self) (ofCodePoints codes)
    rw [ih fun c hc => h c (List.mem_cons_of_mem _ hc)] at here
    simpa [ofCodePoints] using here

end LoadDispatch.Text
