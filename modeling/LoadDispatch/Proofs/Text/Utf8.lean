import LoadDispatch.Text.Decoding
import LoadDispatch.Text.Unencodable

/-!
# What UTF-8 is read as

A text without lone surrogates has bytes, and what is read from them is the text again
(`strict?_utf8Bytes`).  The two sides see a character differently: the writer splits its code point
into groups of six bits, the reader looks the first byte up and takes the others one by one.
`utf8Items_encode` brings them together, with one case for each number of bytes.

A JSON text does not say that it is UTF-8, but two ASCII characters at its front do
(`ofJson_utf8Bytes`).
-/

namespace LoadDispatch.Text

variable {surrogates : Bool} {fuel code : Nat} {rest : List UInt8}

theorem toNat_ofNat_byte {n : Nat} (h : n < 256) : (UInt8.ofNat n).toNat = n :=
  Nat.mod_eq_of_lt h

/-- A code point that is a character's. -/
def IsScalar (code : Nat) : Prop :=
  code < 0x110000 ∧ isSurrogate code = false

theorem isScalar_toNat (c : Char) : IsScalar c.toNat := by
  have hvalid : c.toNat.isValidChar := c.valid
  simp only [Nat.isValidChar] at hvalid
  simp only [IsScalar, isSurrogate, Bool.and_eq_false_iff, decide_eq_false_iff_not]
  omega

theorem isReserved_of_ascii (h : code < 0x80) : isReserved code = false := by
  have hlow : ¬ markCode ≤ code := by
    simp only [markCode]
    omega
  simp [isReserved, hlow]

/-! ## One character -/

/-- A byte that fits adds its six bits. -/
theorem utf8Tail_byte {following low high bits x : Nat} (hx : x < 64) (hlow : low ≤ x + 128)
    (hhigh : x + 128 ≤ high) :
    utf8Tail ⟨following + 1, low, high, bits⟩ (UInt8.ofNat (x + 128) :: rest) =
      utf8Tail ⟨following, 0x80, 0xBF, 64 * bits + x⟩ rest := by
  rw [utf8Tail, toNat_ofNat_byte (by omega), if_pos ⟨hlow, hhigh⟩, Nat.add_sub_cancel]

theorem utf8Tail_done {low high bits : Nat} :
    utf8Tail ⟨0, low, high, bits⟩ rest = (some bits, rest) := by
  rw [utf8Tail]

/-- A first byte tells how many follow and the range of the second. -/
theorem utf8Items_lead {byte : Nat} {lead : Utf8Lead} (hbyte : 0x80 ≤ byte) (hlt : byte < 256)
    (hlead : utf8Lead? surrogates byte = some lead) :
    utf8Items surrogates (fuel + 1) (UInt8.ofNat byte :: rest) =
      (utf8Tail lead rest).1 :: utf8Items surrogates fuel (utf8Tail lead rest).2 := by
  rw [utf8Items, toNat_ofNat_byte hlt, if_neg (by omega), hlead]

theorem utf8Items_ascii (h : code < 0x80) :
    utf8Items surrogates (fuel + 1) (UInt8.ofNat code :: rest) =
      some code :: utf8Items surrogates fuel rest := by
  rw [utf8Items, toNat_ofNat_byte (by omega), if_pos h]

theorem utf8Items_two (hlow : 0x80 ≤ code) (hhigh : code < 0x800) :
    utf8Items surrogates (fuel + 1)
        (UInt8.ofNat (code / 64 % 32 + 192) :: UInt8.ofNat (code % 64 + 128) :: rest) =
      some code :: utf8Items surrogates fuel rest := by
  have hlead : utf8Lead? surrogates (code / 64 % 32 + 192) = some ⟨1, 0x80, 0xBF, code / 64⟩ := by
    have hbits : code / 64 % 32 + 192 - 0xC0 = code / 64 := by omega
    unfold utf8Lead?
    rw [if_neg (by omega), if_pos (by omega), hbits]
  have hcode : 64 * (code / 64) + code % 64 = code := by omega
  rw [utf8Items_lead (by omega) (by omega) hlead, utf8Tail_byte (by omega) (by omega) (by omega),
    utf8Tail_done, hcode]

/-- The second of three bytes has a range of its own where the code would be too small otherwise,
and where it would be that of a surrogate. -/
theorem utf8Lead?_three (surrogates : Bool) (hlow : 0x800 ≤ code) (hhigh : code < 0x10000)
    (hscalar : isSurrogate code = false) :
    ∃ low high, utf8Lead? surrogates (code / 4096 % 16 + 224) =
        some ⟨2, low, high, code / 4096⟩ ∧
      low ≤ code / 64 % 64 + 128 ∧ code / 64 % 64 + 128 ≤ high := by
  have hsurrogate : code < 0xD800 ∨ 0xE000 ≤ code := by
    simp only [isSurrogate, Bool.and_eq_false_iff, decide_eq_false_iff_not] at hscalar
    omega
  have hbyte : code / 4096 % 16 + 224 = code / 4096 + 0xE0 := by omega
  unfold utf8Lead?
  rw [hbyte, if_neg (by omega), if_neg (by omega)]
  by_cases hfirst : code / 4096 = 0
  · rw [hfirst]
    exact ⟨_, _, rfl, by omega, by omega⟩
  rw [if_neg (by omega)]
  by_cases hbefore : code / 4096 = 0xD
  · rw [hbefore]
    refine ⟨_, _, rfl, by omega, ?_⟩
    split <;> omega
  · rw [if_neg (by omega), if_pos (by omega), Nat.add_sub_cancel]
    exact ⟨_, _, rfl, by omega, by omega⟩

theorem utf8Items_three (hlow : 0x800 ≤ code) (hhigh : code < 0x10000)
    (hscalar : isSurrogate code = false) :
    utf8Items surrogates (fuel + 1) (UInt8.ofNat (code / 4096 % 16 + 224) ::
        UInt8.ofNat (code / 64 % 64 + 128) :: UInt8.ofNat (code % 64 + 128) :: rest) =
      some code :: utf8Items surrogates fuel rest := by
  obtain ⟨low, high, hlead, hfrom, hto⟩ :=
    utf8Lead?_three surrogates hlow hhigh hscalar
  have hcode : 64 * (64 * (code / 4096) + code / 64 % 64) + code % 64 = code := by omega
  rw [utf8Items_lead (by omega) (by omega) hlead, utf8Tail_byte (by omega) hfrom hto,
    utf8Tail_byte (by omega) (by omega) (by omega), utf8Tail_done, hcode]

/-- The second of four bytes has a range of its own at both ends. -/
theorem utf8Lead?_four (surrogates : Bool) (hlow : 0x10000 ≤ code) (hhigh : code < 0x110000) :
    ∃ low high, utf8Lead? surrogates (code / 262144 % 8 + 240) =
        some ⟨3, low, high, code / 262144⟩ ∧
      low ≤ code / 4096 % 64 + 128 ∧ code / 4096 % 64 + 128 ≤ high := by
  have hbyte : code / 262144 % 8 + 240 = code / 262144 + 0xF0 := by omega
  unfold utf8Lead?
  rw [hbyte, if_neg (by omega), if_neg (by omega), if_neg (by omega), if_neg (by omega),
    if_neg (by omega)]
  by_cases hfirst : code / 262144 = 0
  · rw [hfirst]
    exact ⟨_, _, rfl, by omega, by omega⟩
  rw [if_neg (by omega)]
  by_cases hlast : code / 262144 = 4
  · rw [hlast]
    exact ⟨_, _, rfl, by omega, by omega⟩
  · rw [if_pos (by omega), Nat.add_sub_cancel]
    exact ⟨_, _, rfl, by omega, by omega⟩

theorem utf8Items_four (hlow : 0x10000 ≤ code) (hhigh : code < 0x110000) :
    utf8Items surrogates (fuel + 1) (UInt8.ofNat (code / 262144 % 8 + 240) ::
        UInt8.ofNat (code / 4096 % 64 + 128) :: UInt8.ofNat (code / 64 % 64 + 128) ::
        UInt8.ofNat (code % 64 + 128) :: rest) =
      some code :: utf8Items surrogates fuel rest := by
  obtain ⟨low, high, hlead, hfrom, hto⟩ := utf8Lead?_four surrogates hlow hhigh
  have hcode : 64 * (64 * (64 * (code / 262144) + code / 4096 % 64) + code / 64 % 64) + code % 64 =
      code := by omega
  rw [utf8Items_lead (by omega) (by omega) hlead, utf8Tail_byte (by omega) hfrom hto,
    utf8Tail_byte (by omega) (by omega) (by omega), utf8Tail_byte (by omega) (by omega) (by omega),
    utf8Tail_done, hcode]

/-- The bytes of a character are read as its code point. -/
theorem utf8Items_encode (h : IsScalar code) :
    utf8Items surrogates (fuel + 1) (String.utf8EncodeChar (Char.ofNat code) ++ rest) =
      some code :: utf8Items surrogates fuel rest := by
  have hcode : (Char.ofNat code).val.toNat = code := toNat_ofNat h.1 h.2
  unfold String.utf8EncodeChar
  rw [hcode]
  dsimp only
  split
  · exact utf8Items_ascii (by omega)
  split
  · exact utf8Items_two (by omega) (by omega)
  split
  · exact utf8Items_three (by omega) (by omega) h.2
  · exact utf8Items_four (by omega) h.1

/-! ## Texts -/


/-- A text that keeps code points as they are kept, and those of characters only. -/
def HasUtf8 (cs : List Char) : Prop :=
  ∃ codes, (∀ code ∈ codes, IsScalar code) ∧ ofCodePoints codes = cs

theorem length_le_length_bytes (codes : List Nat) :
    codes.length ≤ (codes.flatMap fun code => String.utf8EncodeChar (Char.ofNat code)).length := by
  induction codes with
  | nil => simp
  | cons code codes ih =>
      have hpos := Char.utf8Size_pos (Char.ofNat code)
      simp only [List.flatMap_cons, List.length_append, List.length_cons,
        String.length_utf8EncodeChar]
      omega

theorem utf8Items_flatMap {codes : List Nat} (h : ∀ code ∈ codes, IsScalar code)
    (hfuel : codes.length ≤ fuel) :
    utf8Items surrogates fuel
        (codes.flatMap fun code => String.utf8EncodeChar (Char.ofNat code)) = codes.map some := by
  induction codes generalizing fuel with
  | nil => rw [List.flatMap_nil, utf8Items, List.map_nil]
  | cons code codes ih =>
      obtain ⟨fuel, rfl⟩ : ∃ n, fuel = n + 1 := ⟨fuel - 1, by simp at hfuel; omega⟩
      rw [List.flatMap_cons, utf8Items_encode (h code List.mem_cons_self),
        ih (fun c hc => h c (List.mem_cons_of_mem _ hc)) (by simpa using hfuel), List.map_cons]

/-- **The bytes of a text are read as the text.** -/
theorem strict?_utf8Bytes {s : String} (h : HasUtf8 s.toList) :
    Encoding.utf8.strict? (utf8Bytes s) = some s.toList := by
  obtain ⟨codes, hcodes, hs⟩ := h
  have hpoints : codePoints s.toList = codes := by
    rw [← hs, codePoints_ofCodePoints fun code hcode => (hcodes code hcode).1]
  have hwhole : (codes.map some).mapM id = some codes := by
    rw [List.mapM_map]
    exact List.mapM_pure.trans (congrArg some (List.map_id codes))
  rw [Encoding.strict?, Encoding.items, utf8Bytes, hpoints,
    utf8Items_flatMap hcodes (length_le_length_bytes codes), wholeText?, hwhole, Option.map_some,
    hs]

/-- Such a text has bytes. -/
theorem utf8Refusal?_eq_none {s : String} (h : HasUtf8 s.toList) : utf8Refusal? s = none := by
  obtain ⟨codes, hcodes, hs⟩ := h
  rw [utf8Refusal?, refusal?_eq_none_iff, ← hs,
    codePoints_ofCodePoints fun code hcode => (hcodes code hcode).1]
  exact fun code hcode => (hcodes code hcode).2

namespace HasUtf8

variable {cs ds : List Char}

theorem append (h : HasUtf8 cs) (h' : HasUtf8 ds) : HasUtf8 (cs ++ ds) := by
  obtain ⟨codes, hcodes, rfl⟩ := h
  obtain ⟨codes', hcodes', rfl⟩ := h'
  refine ⟨codes ++ codes', fun code hcode => ?_, List.flatMap_append⟩
  exact (List.mem_append.mp hcode).elim (hcodes code) (hcodes' code)

theorem of_unreserved (h : ∀ c ∈ cs, isReserved c.toNat = false) : HasUtf8 cs := by
  refine ⟨cs.map Char.toNat, fun code hcode => ?_, ?_⟩
  · obtain ⟨c, -, rfl⟩ := List.mem_map.mp hcode
    exact isScalar_toNat c
  · induction cs with
    | nil => rfl
    | cons c cs ih =>
        have hc : ofCodePoint c.toNat = [c] := by
          rw [ofCodePoint, if_neg (by simp [(isScalar_toNat c).2]),
            if_neg (by simp [h c List.mem_cons_self]), Char.ofNat_toNat]
        have hcs := ih fun d hd => h d (List.mem_cons_of_mem _ hd)
        rw [ofCodePoints] at hcs ⊢
        rw [List.map_cons, List.flatMap_cons, hc, hcs, List.singleton_append]

theorem of_ascii (h : ∀ c ∈ cs, c.toNat < 0x80) : HasUtf8 cs :=
  of_unreserved fun c hc => isReserved_of_ascii (h c hc)

theorem of_all_ascii (h : cs.all (fun c => c.toNat < 0x80) = true) : HasUtf8 cs :=
  of_ascii fun c hc => by simpa using List.all_eq_true.mp h c hc

theorem ofCharacters (s : String) : HasUtf8 (Text.ofCharacters s).toList := by
  refine ⟨s.toList.map Char.toNat, fun code hcode => ?_, String.toList_ofList.symm⟩
  obtain ⟨c, -, rfl⟩ := List.mem_map.mp hcode
  exact isScalar_toNat c

end HasUtf8

/-- Texts that are kept alike are alike. -/
theorem eq_of_ofCharacters_eq {s t : String} (h : ofCharacters s = ofCharacters t) : s = t := by
  have hcodes (r : String) : codePoints (ofCharacters r).toList = r.toList.map Char.toNat := by
    rw [ofCharacters, String.toList_ofList, codePoints_ofCodePoints]
    intro code hcode
    obtain ⟨c, -, rfl⟩ := List.mem_map.mp hcode
    exact (isScalar_toNat c).1
  have hnumbers : s.toList.map Char.toNat = t.toList.map Char.toNat := by
    rw [← hcodes, h, hcodes]
  have hchars := congrArg (List.map Char.ofNat) hnumbers
  simpa [Function.comp_def, String.toList_inj] using hchars

/-! ## JSON texts -/

theorem utf8Bytes_cons {c : Char} {cs : List Char} (h : c.toNat < 0x80) :
    utf8Bytes (String.ofList (c :: cs)) =
      UInt8.ofNat c.toNat :: utf8Bytes (String.ofList cs) := by
  have hmark : c.toNat ≠ markCode := by
    simp only [markCode]
    omega
  have hpoints : codePoints (c :: cs) = c.toNat :: codePoints cs := by
    rw [codePoints.eq_def]
    simp [hmark, isReserved_of_ascii h]
  have hbytes : String.utf8EncodeChar c = [UInt8.ofNat c.toNat] := if_pos (Nat.le_of_lt_succ h)
  rw [utf8Bytes, String.toList_ofList, hpoints, List.flatMap_cons, Char.ofNat_toNat, hbytes,
    utf8Bytes, String.toList_ofList, List.singleton_append]

/-- A text that begins with two ASCII characters is none that begins with a mark, nor does it have
zeros where wider encodings have them. -/
theorem ofJson_utf8Bytes {a b c d : Char} {cs : List Char} (ha : 0 < a.toNat ∧ a.toNat < 0x80)
    (hb : 0 < b.toNat ∧ b.toNat < 0x80) (hc : c.toNat < 0x80) (hd : d.toNat < 0x80) :
    Encoding.ofJson (utf8Bytes (String.ofList (a :: b :: c :: d :: cs))) = .utf8 := by
  have hne {x : Char} {y : UInt8} (hx : x.toNat < 0x80) (h : x.toNat ≠ y.toNat) :
      UInt8.ofNat x.toNat ≠ y := by
    rintro rfl
    exact h (toNat_ofNat_byte (by omega)).symm
  have hzero : UInt8.ofNat a.toNat ≠ 0 := hne ha.2 (Nat.ne_of_gt ha.1)
  have hzero' : UInt8.ofNat b.toNat ≠ 0 := hne hb.2 (Nat.ne_of_gt hb.1)
  have hhigh (y : UInt8) (hy : 0x80 ≤ y.toNat) : UInt8.ofNat a.toNat ≠ y :=
    hne ha.2 (by omega)
  rw [utf8Bytes_cons ha.2, utf8Bytes_cons hb.2, utf8Bytes_cons hc, utf8Bytes_cons hd]
  have hfe := hhigh 0xFE (by decide)
  have hff := hhigh 0xFF (by decide)
  have hef := hhigh 0xEF (by decide)
  simp [Encoding.ofJson, hasMark32, hasMark16, mark8, hzero, hzero', hzero.symm, hfe.symm, hff.symm,
    hef.symm]

end LoadDispatch.Text
