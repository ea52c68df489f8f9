import LoadDispatch.Json.Printer
import LoadDispatch.Json.Reader
import Mathlib.Data.List.Nodup

/-!
# Reading what was written

A text that was written is read back (`readWithin_write`).  This takes a `Legible` value: one
without floats, whose integers have no more digits than a reader takes, whose objects have no key
twice, and that is nested no deeper than the reader goes.  Strings may hold any characters.

It is an induction in which the fuel is left open, and what stands behind the value too; all that is
asked of the latter is that it cannot be taken for more of a number (`Ends`).
-/

namespace LoadDispatch.Json

open Decimal.Numeral (digitLimit spanDigits)

variable {depth fuel : Nat} {c : Char} {cs rest : List Char}

theorem skipBlanks_cons (h : isJsonBlank c = false) : skipBlanks (c :: cs) = c :: cs := by
  simp [skipBlanks, h]

/-! ## What is written -/

theorem write_str (s : String) : (Json.str s).write = writeString s :=
  rfl

theorem write_int (n : Int) : (Json.int n).write = Text.intDigits n :=
  rfl

theorem write_arr_cons (j : Json) (js : List Json) :
    (Json.arr (j :: js)).write = '[' :: (j.write ++ writeItems js) :=
  rfl

theorem write_obj_cons (key : String) (j : Json) (ms : List (String × Json)) :
    (Json.obj ((key, j) :: ms)).write =
      '\x7b' :: (writeString key ++ ':' :: (j.write ++ writeMembers ms)) := by
  show '\x7b' :: writeString key ++ ':' :: j.write ++ writeMembers ms = _
  simp only [List.cons_append, List.append_assoc]

theorem writeMembers_cons (key : String) (j : Json) (ms : List (String × Json)) :
    writeMembers ((key, j) :: ms) =
      ',' :: (writeString key ++ ':' :: (j.write ++ writeMembers ms)) := by
  show ',' :: writeString key ++ ':' :: j.write ++ writeMembers ms = _
  simp only [List.cons_append, List.append_assoc]

/-! ## Strings -/

/-- The field of a control character is its two digits behind two zeros. -/
theorem hexField_four :
    ∀ n < 0x20, Text.hexField 4 n = ['0', '0', Nat.digitChar (n / 16), Nat.digitChar (n % 16)] := by
  decide

theorem hexValue?_digitChar : ∀ d < 16, Text.hexValue? (Nat.digitChar d) = some d := by
  decide

theorem hexQuad?_hexField {n : Nat} (h : n < 0x20) :
    hexQuad? (Text.hexField 4 n ++ rest) = some (n, rest) := by
  have hzero : Text.hexValue? '0' = some 0 := rfl
  have hhigh := hexValue?_digitChar (n / 16) (by omega)
  have hlow := hexValue?_digitChar (n % 16) (by omega)
  rw [hexField_four n h]
  simp only [List.cons_append, List.nil_append, hexQuad?, hzero, hhigh, hlow, Option.bind_eq_bind,
    Option.bind_some, Option.pure_def]
  congr 2
  omega

/-- A control character is what its escape stands for. -/
theorem escape?_hexField (h : c.toNat < 0x20) :
    escape? ('u' :: (Text.hexField 4 c.toNat ++ rest)) = some ([c], rest) := by
  have hunit : unitCode c.toNat rest = (c.toNat, rest) := by
    simp only [unitCode]
    rw [if_neg (by omega)]
  have hcode : Text.ofCodePoint c.toNat = [c] := by
    have hsurrogate : Text.isSurrogate c.toNat = false := by
      simp [Text.isSurrogate, show ¬ 0xD800 ≤ c.toNat by omega]
    have hreserved : Text.isReserved c.toNat = false := by
      simp [Text.isReserved, Text.markCode, show ¬ 0x10D7FF ≤ c.toNat by omega]
    simp [Text.ofCodePoint, hsurrogate, hreserved]
  simp [escape?, hexQuad?_hexField h, hunit, hcode]

/-- A character that is not escaped stands for itself. -/
theorem stringTail?_cons {done : List Char} (hquote : c ≠ '"') (hbackslash : c ≠ '\\')
    (hcontrol : ¬ c.toNat < 0x20) :
    stringTail? (fuel + 1) done (c :: rest) = stringTail? fuel (c :: done) rest := by
  rw [stringTail?]
  · rw [if_neg hcontrol]
  · exact hquote
  · exact hbackslash

/-- One step of the reader of strings undoes one step of the printer. -/
theorem stringTail?_escapeChar (done : List Char) :
    stringTail? (fuel + 1) done (escapeChar c ++ rest) = stringTail? fuel (c :: done) rest := by
  fun_cases escapeChar c with
  | case8 _ _ _ _ _ _ _ hcontrol =>
      simp only [List.cons_append, stringTail?, escape?_hexField hcontrol, Option.bind_some]
      rfl
  | case9 hquote hbackslash _ _ _ _ _ hcontrol =>
      rw [List.singleton_append, stringTail?_cons hquote hbackslash hcontrol]
  | _ =>
      subst_vars
      rfl

theorem stringTail?_escaped (done : List Char) (h : cs.length < fuel) :
    stringTail? fuel done (cs.flatMap escapeChar ++ '"' :: rest) =
      some (String.ofList (done.reverse ++ cs), rest) := by
  induction cs generalizing fuel done with
  | nil =>
      obtain ⟨fuel, rfl⟩ : ∃ n, fuel = n + 1 := ⟨fuel - 1, by simp at h; omega⟩
      simp [stringTail?]
  | cons c cs ih =>
      obtain ⟨fuel, rfl⟩ : ∃ n, fuel = n + 1 := ⟨fuel - 1, by simp at h; omega⟩
      rw [List.flatMap_cons, List.append_assoc, stringTail?_escapeChar, ih _ (by simpa using h)]
      simp

theorem length_pos_escapeChar : 0 < (escapeChar c).length := by
  fun_cases escapeChar c <;> exact Nat.zero_lt_succ _

theorem length_le_length_escaped : cs.length ≤ (cs.flatMap escapeChar).length := by
  induction cs with
  | nil => simp
  | cons c cs ih =>
      have := length_pos_escapeChar (c := c)
      simp only [List.length_cons, List.flatMap_cons, List.length_append]
      omega

/-- A string reads back, whatever its characters. -/
theorem string?_escaped (s : String) :
    string? (s.toList.flatMap escapeChar ++ '"' :: rest) = some (s, rest) := by
  have hlength : s.toList.length ≤ _ := length_le_length_escaped
  rw [string?, stringTail?_escaped]
  · simp
  · simp only [List.length_append, List.length_cons]
    omega

/-! ## Integers -/

/-- What may stand behind a value: nothing, or what separates or closes. -/
def Ends (rest : List Char) : Prop :=
  ∀ c ∈ rest.head?, c = ',' ∨ c = ']' ∨ c = '}'

theorem Ends.not_digit (h : Ends rest) : ∀ c ∈ rest.head?, c.isDigit = false := by
  intro c hc
  rcases h c hc with rfl | rfl | rfl <;> rfl

theorem Ends.takeWhile_eq (h : Ends rest) : rest.takeWhile Char.isDigit = [] := by
  cases rest with
  | nil => rfl
  | cons c cs => simp [h.not_digit c rfl]

theorem Ends.dropWhile_eq (h : Ends rest) : rest.dropWhile Char.isDigit = rest := by
  cases rest with
  | nil => rfl
  | cons c cs => simp [h.not_digit c rfl]

theorem Ends.fraction_eq (h : Ends rest) : fraction rest = ([], rest) := by
  unfold fraction
  split
  · exact absurd (h _ rfl) (by decide)
  · rfl

theorem Ends.exponent_eq (h : Ends rest) : exponent rest = (none, rest) := by
  cases rest with
  | nil => rfl
  | cons c cs =>
      have hc : ¬ (c = 'e' ∨ c = 'E') := by
        rcases h c rfl with rfl | rfl | rfl <;> decide
      simp [exponent, hc]

/-- The first digit of a positive number is none that could be left out. -/
theorem exists_toDigits_eq_cons {n : Nat} (h : 0 < n) :
    ∃ d ds, Nat.toDigits 10 n = d :: ds ∧ d ≠ '0' := by
  induction n using Nat.strongRecOn with
  | ind n ih =>
      rw [Nat.toDigits_eq_if (by decide)]
      split
      · next hlt =>
        refine ⟨_, _, rfl, ?_⟩
        have hdigit : ∀ d < 10, 0 < d → Nat.digitChar d ≠ '0' := by decide
        exact hdigit n hlt h
      · next hge =>
        obtain ⟨d, ds, hds, hd⟩ := ih (n / 10) (by omega) (by omega)
        exact ⟨d, ds ++ [_], by rw [hds, List.cons_append], hd⟩

theorem isDigit_toDigits {n : Nat} : ∀ c ∈ Nat.toDigits 10 n, c.isDigit = true :=
  fun _ hc => Nat.isDigit_of_mem_toDigits (by decide) (by decide) hc

theorem wholeDigits_toDigits (n : Nat) (h : Ends rest) :
    wholeDigits (Nat.toDigits 10 n ++ rest) = (Nat.toDigits 10 n, rest) := by
  have hspan : spanDigits (Nat.toDigits 10 n ++ rest) = (Nat.toDigits 10 n, rest) := by
    rw [spanDigits, List.takeWhile_append_of_pos isDigit_toDigits,
      List.dropWhile_append_of_pos isDigit_toDigits, h.takeWhile_eq, h.dropWhile_eq,
      List.append_nil]
  rcases Nat.eq_zero_or_pos n with rfl | hpos
  · rfl
  · obtain ⟨d, ds, hds, hd⟩ := exists_toDigits_eq_cons hpos
    rw [hds] at hspan ⊢
    rw [List.cons_append] at hspan ⊢
    unfold wholeDigits
    split
    · next heq =>
      cases heq
      exact absurd rfl hd
    · exact hspan

/-- The digits of a number are read as an integer. -/
theorem number?_toDigits (negative : Bool) {n : Nat} (hn : (Nat.toDigits 10 n).length ≤ digitLimit)
    (h : Ends rest) :
    number? negative (Nat.toDigits 10 n ++ rest) =
      some (.int (if negative then -(n : Int) else n), rest) := by
  have hvalue : Text.decimalValue (Nat.toDigits 10 n) = n := Nat.ofDigitChars_ten_toDigits
  unfold number?
  simp only [wholeDigits_toDigits n h, Nat.toDigits_ne_nil, if_false, h.fraction_eq, h.exponent_eq,
    and_self, if_true, hvalue, Nat.not_lt.mpr hn]

theorem after?_eq_none {word : List Char} (hword : word ≠ []) (h : word.head? ≠ some c) :
    after? word (c :: cs) = none := by
  cases word with
  | nil => exact absurd rfl hword
  | cons w word =>
      have hne : w ≠ c := by simpa using h
      simp [after?, hne]

/-- What begins with a digit can only be a number. -/
theorem scalar?_of_isDigit (h : c.isDigit = true) :
    scalar? (c :: cs) = number? false (c :: cs) := by
  have hnone {word : List Char} (hword : word ≠ []) (hdigit : word.head?.any Char.isDigit = false) :
      after? word (c :: cs) = none := by
    refine after?_eq_none hword fun heq => ?_
    rw [heq, Option.any_some, h] at hdigit
    cases hdigit
  have hnull : after? "null".toList (c :: cs) = none := hnone (by decide) rfl
  have htrue : after? "true".toList (c :: cs) = none := hnone (by decide) rfl
  have hfalse : after? "false".toList (c :: cs) = none := hnone (by decide) rfl
  have hnan : after? "NaN".toList (c :: cs) = none := hnone (by decide) rfl
  have hinfinity : after? "Infinity".toList (c :: cs) = none := hnone (by decide) rfl
  have hnegative : after? "-Infinity".toList (c :: cs) = none := hnone (by decide) rfl
  unfold scalar?
  rw [hnull, htrue, hfalse, hnan, hinfinity, hnegative]
  split
  · next heq =>
    cases heq
    cases h
  · rfl

/-- A minus sign in front of a digit is that of a number. -/
theorem scalar?_minus (h : c.isDigit = true) :
    scalar? ('-' :: c :: cs) = number? true (c :: cs) := by
  have hnegative : after? "-Infinity".toList ('-' :: c :: cs) = none := by
    have hne : ('I' == c) = false := by
      rw [beq_eq_false_iff_ne]
      rintro rfl
      cases h
    show (if List.isPrefixOf ('-' :: 'I' :: "nfinity".toList) ('-' :: c :: cs) then _ else _) = none
    simp [List.isPrefixOf, hne]
  have hnone {word : List Char} (hword : word ≠ []) (hsign : word.head? ≠ some '-') :
      after? word ('-' :: c :: cs) = none := after?_eq_none hword hsign
  have hnull : after? "null".toList ('-' :: c :: cs) = none := hnone (by decide) (by decide)
  have htrue : after? "true".toList ('-' :: c :: cs) = none := hnone (by decide) (by decide)
  have hfalse : after? "false".toList ('-' :: c :: cs) = none := hnone (by decide) (by decide)
  have hnan : after? "NaN".toList ('-' :: c :: cs) = none := hnone (by decide) (by decide)
  have hinfinity : after? "Infinity".toList ('-' :: c :: cs) = none :=
    hnone (by decide) (by decide)
  unfold scalar?
  rw [hnull, htrue, hfalse, hnan, hinfinity, hnegative]
  rfl

/-- An integer reads back. -/
theorem scalar?_intDigits {n : Int} (hn : (Nat.toDigits 10 n.natAbs).length ≤ digitLimit)
    (h : Ends rest) : scalar? (Text.intDigits n ++ rest) = some (.int n, rest) := by
  obtain ⟨d, ds, hds⟩ := List.exists_cons_of_ne_nil (Nat.toDigits_ne_nil (n := n.natAbs) (b := 10))
  have hd : d.isDigit = true := isDigit_toDigits d (hds ▸ List.mem_cons_self)
  unfold Text.intDigits
  split
  · next hneg =>
    have hnumber := number?_toDigits true hn h
    have habs : -(n.natAbs : Int) = n := by omega
    rw [if_pos rfl, habs] at hnumber
    rw [hds, List.cons_append] at hnumber ⊢
    rw [List.cons_append, scalar?_minus hd, hnumber]
  · next hnonneg =>
    have hnumber := number?_toDigits false hn h
    have habs : (n.natAbs : Int) = n := by omega
    rw [if_neg (by decide), habs] at hnumber
    rw [hds, List.cons_append] at hnumber ⊢
    rw [scalar?_of_isDigit hd, hnumber]

/-! ## Values -/

/-- A value that can be read as it is written, by a reader that goes `depth` deep. -/
inductive Legible : Nat → Json → Prop where
  /-- Nothing. -/
  | null {depth : Nat} : Legible depth .null
  /-- A truth value. -/
  | bool {depth : Nat} (value : Bool) : Legible depth (.bool value)
  /-- An integer of no more digits than a reader takes. -/
  | int {depth : Nat} {value : Int} (digits : (Nat.toDigits 10 value.natAbs).length ≤ digitLimit) :
      Legible depth (.int value)
  /-- A string. -/
  | str {depth : Nat} (value : String) : Legible depth (.str value)
  /-- An array of such values. -/
  | arr {depth : Nat} {items : List Json} (legible : ∀ j ∈ items, Legible depth j) :
      Legible (depth + 1) (.arr items)
  /-- An object with such values, and with no key twice. -/
  | obj {depth : Nat} {members : List (String × Json)} (keys : (members.map Prod.fst).Nodup)
      (legible : ∀ m ∈ members, Legible depth m.2) : Legible (depth + 1) (.obj members)

/-- A value is read from its written form, with enough fuel and whatever may stand behind it. -/
def ReadsBack (depth : Nat) (j : Json) : Prop :=
  ∀ ⦃fuel rest⦄, j.write.length ≤ fuel → Ends rest →
    value fuel depth (j.write ++ rest) = .ok (j, rest)

/-- The first character of a written value: no blank, and nothing that closes. -/
def Opens (cs : List Char) : Prop :=
  ∃ c rest, cs = c :: rest ∧ isJsonBlank c = false ∧ c ≠ ']' ∧ c ≠ '}'

theorem Opens.append (h : Opens cs) : Opens (cs ++ rest) := by
  obtain ⟨c, tail, rfl, hc⟩ := h
  exact ⟨c, tail ++ rest, rfl, hc⟩

/-- An integer begins with a sign or a digit. -/
theorem exists_intDigits_eq_cons (n : Int) :
    ∃ c cs, Text.intDigits n = c :: cs ∧ (c = '-' ∨ c.isDigit = true) := by
  unfold Text.intDigits
  split
  · exact ⟨_, _, rfl, .inl rfl⟩
  · obtain ⟨d, ds, hds⟩ :=
      List.exists_cons_of_ne_nil (Nat.toDigits_ne_nil (n := n.natAbs) (b := 10))
    exact ⟨d, ds, hds, .inr (isDigit_toDigits d (hds ▸ List.mem_cons_self))⟩

theorem ne_of_sign_or_digit {d : Char} (h : c = '-' ∨ c.isDigit = true) (hsign : '-' ≠ d)
    (hdigit : d.isDigit = false) : c ≠ d := by
  rintro rfl
  rcases h with rfl | h
  · exact hsign rfl
  · rw [h] at hdigit
    cases hdigit

theorem isJsonBlank_of_sign_or_digit (h : c = '-' ∨ c.isDigit = true) : isJsonBlank c = false := by
  simp [isJsonBlank, ne_of_sign_or_digit (d := ' ') h (by decide) rfl,
    ne_of_sign_or_digit (d := '\t') h (by decide) rfl,
    ne_of_sign_or_digit (d := '\n') h (by decide) rfl,
    ne_of_sign_or_digit (d := '\r') h (by decide) rfl]

theorem opens_intDigits (n : Int) : Opens (Text.intDigits n) := by
  obtain ⟨c, cs, hcs, hc⟩ := exists_intDigits_eq_cons n
  exact ⟨c, cs, hcs, isJsonBlank_of_sign_or_digit hc, ne_of_sign_or_digit hc (by decide) rfl,
    ne_of_sign_or_digit hc (by decide) rfl⟩

theorem Legible.opens {j : Json} (h : Legible depth j) : Opens j.write := by
  cases h with
  | null => exact ⟨_, _, rfl, rfl, by decide, by decide⟩
  | bool value => cases value <;> exact ⟨_, _, rfl, rfl, by decide, by decide⟩
  | int => exact opens_intDigits _
  | str => exact ⟨_, _, rfl, rfl, by decide, by decide⟩
  | @arr _ items => cases items <;> exact ⟨_, _, rfl, rfl, by decide, by decide⟩
  | @obj _ members => cases members <;> exact ⟨_, _, rfl, rfl, by decide, by decide⟩

theorem Opens.length_pos (h : Opens cs) : 0 < cs.length := by
  obtain ⟨c, tail, rfl, -⟩ := h
  simp

theorem ends_writeItems (js : List Json) : Ends (writeItems js ++ rest) := by
  cases js <;> simp [writeItems, Ends]

theorem ends_writeMembers (ms : List (String × Json)) : Ends (writeMembers ms ++ rest) := by
  cases ms <;> simp [writeMembers, Ends]

theorem items_last {j : Json} (h : value fuel depth cs = .ok (j, ']' :: rest)) :
    items (fuel + 1) depth cs = .ok ([j], rest) := by
  rw [items, h]
  rfl

theorem items_more {j : Json} (h : value fuel depth cs = .ok (j, ',' :: rest)) :
    items (fuel + 1) depth cs = (items fuel depth rest).map (j :: ·) := by
  rw [items, h]
  rfl

/-- The items of an array read back if each does. -/
theorem items_write {j : Json} {js : List Json} (hlegible : ∀ i ∈ j :: js, Legible depth i)
    (hreads : ∀ i ∈ j :: js, ReadsBack depth i)
    (hfuel : (j.write ++ writeItems js).length ≤ fuel) :
    items fuel depth (j.write ++ writeItems js ++ rest) = .ok (j :: js, rest) := by
  induction js generalizing j fuel with
  | nil =>
      have hpos := (hlegible j List.mem_cons_self).opens.length_pos
      simp only [writeItems, List.length_append, List.length_singleton] at hfuel
      obtain ⟨fuel, rfl⟩ : ∃ n, fuel = n + 1 := ⟨fuel - 1, by omega⟩
      rw [List.append_assoc]
      exact items_last (hreads j List.mem_cons_self (by omega) (ends_writeItems []))
  | cons j' js ih =>
      have hpos := (hlegible j List.mem_cons_self).opens.length_pos
      simp only [writeItems, List.length_append, List.length_cons] at hfuel
      obtain ⟨fuel, rfl⟩ : ∃ n, fuel = n + 1 := ⟨fuel - 1, by omega⟩
      have hvalue : value fuel depth (j.write ++ (writeItems (j' :: js) ++ rest)) =
          .ok (j, writeItems (j' :: js) ++ rest) :=
        hreads j List.mem_cons_self (by omega) (ends_writeItems (j' :: js))
      have hmore : items fuel depth (j'.write ++ writeItems js ++ rest) = .ok (j' :: js, rest) :=
        ih (List.forall_mem_cons.mp hlegible).2 (List.forall_mem_cons.mp hreads).2
          (by simp only [List.length_append]; omega)
      rw [List.append_assoc, items_more hvalue]
      show (items fuel depth (j'.write ++ writeItems js ++ rest)).map (j :: ·) = _
      rw [hmore]
      rfl

/-! The members of an object are put behind those that were read before, in `done`. -/

theorem setMember_of_not_mem {members : List (String × Json)} {key : String} {j : Json}
    (h : key ∉ members.map Prod.fst) : setMember members key j = members ++ [(key, j)] := by
  induction members with
  | nil => rfl
  | cons m members ih =>
      rw [List.map_cons, List.mem_cons, not_or] at h
      rw [setMember, if_neg (Ne.symm h.1), ih h.2, List.cons_append]

section Members

variable {done : List (String × Json)} {key : String} {j : Json}

theorem not_mem_done {ms : List (String × Json)}
    (h : ((done ++ (key, j) :: ms).map Prod.fst).Nodup) : key ∉ done.map Prod.fst := by
  rw [List.map_append, List.map_cons, List.nodup_middle, List.nodup_cons] at h
  exact fun hmem => h.1 (List.mem_append_left _ hmem)

theorem members_last (h : value fuel depth cs = .ok (j, '}' :: rest)) :
    members (fuel + 1) depth done (writeString key ++ ':' :: cs) =
      .ok (setMember done key j, rest) := by
  rw [members, writeString]
  simp only [List.cons_append, List.append_assoc, List.nil_append, skipBlanks_cons (c := '"') rfl,
    string?_escaped, skipBlanks_cons (c := ':') rfl, h]
  rfl

theorem members_more (h : value fuel depth cs = .ok (j, ',' :: rest)) :
    members (fuel + 1) depth done (writeString key ++ ':' :: cs) =
      members fuel depth (setMember done key j) rest := by
  rw [members, writeString]
  simp only [List.cons_append, List.append_assoc, List.nil_append, skipBlanks_cons (c := '"') rfl,
    string?_escaped, skipBlanks_cons (c := ':') rfl, h]
  rfl

/-- The members of an object read back if each value does and no key comes twice. -/
theorem members_write {ms : List (String × Json)}
    (hlegible : ∀ m ∈ (key, j) :: ms, Legible depth m.2)
    (hreads : ∀ m ∈ (key, j) :: ms, ReadsBack depth m.2)
    (hkeys : ((done ++ (key, j) :: ms).map Prod.fst).Nodup)
    (hfuel : (j.write ++ writeMembers ms).length ≤ fuel) :
    members fuel depth done (writeString key ++ ':' :: (j.write ++ writeMembers ms ++ rest)) =
      .ok (done ++ (key, j) :: ms, rest) := by
  induction ms generalizing done key j fuel with
  | nil =>
      have hj : ReadsBack depth j := hreads _ List.mem_cons_self
      simp only [writeMembers, List.length_append, List.length_singleton] at hfuel
      obtain ⟨fuel, rfl⟩ : ∃ n, fuel = n + 1 := ⟨fuel - 1, by omega⟩
      have hvalue : value fuel depth (j.write ++ (writeMembers [] ++ rest)) =
          .ok (j, writeMembers [] ++ rest) := hj (by omega) (ends_writeMembers [])
      rw [List.append_assoc, members_last hvalue, setMember_of_not_mem (not_mem_done hkeys)]
      rfl
  | cons m ms ih =>
      obtain ⟨key', j'⟩ := m
      have hj : ReadsBack depth j := hreads _ List.mem_cons_self
      have hpos : 0 < j.write.length := (hlegible _ List.mem_cons_self).opens.length_pos
      simp only [writeMembers, List.length_append, List.length_cons] at hfuel
      obtain ⟨fuel, rfl⟩ : ∃ n, fuel = n + 1 := ⟨fuel - 1, by omega⟩
      have hvalue : value fuel depth (j.write ++ (writeMembers ((key', j') :: ms) ++ rest)) =
          .ok (j, writeMembers ((key', j') :: ms) ++ rest) :=
        hj (by omega) (ends_writeMembers ((key', j') :: ms))
      have hkeys' : ((done ++ [(key, j)] ++ (key', j') :: ms).map Prod.fst).Nodup := by
        simpa using hkeys
      have hmore : members fuel depth (done ++ [(key, j)])
            (writeString key' ++ ':' :: (j'.write ++ writeMembers ms ++ rest)) =
          .ok (done ++ [(key, j)] ++ (key', j') :: ms, rest) :=
        ih (List.forall_mem_cons.mp hlegible).2 (List.forall_mem_cons.mp hreads).2 hkeys'
          (by simp only [List.length_append]; omega)
      rw [List.append_assoc, members_more hvalue, setMember_of_not_mem (not_mem_done hkeys)]
      simpa [writeMembers, List.append_assoc] using hmore

end Members

theorem value_int {n : Int} (hn : (Nat.toDigits 10 n.natAbs).length ≤ digitLimit) (h : Ends rest) :
    value (fuel + 1) depth (Text.intDigits n ++ rest) = .ok (.int n, rest) := by
  have hscalar := scalar?_intDigits hn h
  obtain ⟨c, cs, hcs, hc⟩ := exists_intDigits_eq_cons n
  rw [hcs, List.cons_append] at hscalar ⊢
  rw [value, skipBlanks_cons (isJsonBlank_of_sign_or_digit hc)]
  split
  · next heq =>
    cases heq
    exact absurd rfl (ne_of_sign_or_digit (d := '"') hc (by decide) rfl)
  · next heq =>
    cases heq
    exact absurd rfl (ne_of_sign_or_digit (d := '[') hc (by decide) rfl)
  · next heq =>
    cases heq
    exact absurd rfl (ne_of_sign_or_digit (d := '\x7b') hc (by decide) rfl)
  · rw [hscalar]
    rfl

/-- An array is read through its items, which do not begin with its end. -/
theorem value_arr (h : Opens cs) :
    value (fuel + 1) (depth + 1) ('[' :: cs) = (items fuel depth cs).map .arr := by
  obtain ⟨c, tail, rfl, hblank, hbracket, -⟩ := h
  rw [value, skipBlanks_cons rfl]
  simp only [skipBlanks_cons hblank]
  split
  · next heq =>
    cases heq
    exact absurd rfl hbracket
  · rfl

/-- An object is read through its members, which do not begin with its end. -/
theorem value_obj (h : Opens cs) :
    value (fuel + 1) (depth + 1) ('\x7b' :: cs) = (members fuel depth [] cs).map .obj := by
  obtain ⟨c, tail, rfl, hblank, -, hbrace⟩ := h
  rw [value, skipBlanks_cons rfl]
  simp only [skipBlanks_cons hblank]
  split
  · next heq =>
    cases heq
    exact absurd rfl hbrace
  · rfl

/-- It is enough to look at fuel that is there. -/
theorem readsBack_of_succ {j : Json} (hopens : Opens j.write)
    (h : ∀ ⦃fuel rest⦄, j.write.length ≤ fuel + 1 → Ends rest →
      value (fuel + 1) depth (j.write ++ rest) = .ok (j, rest)) : ReadsBack depth j := by
  intro fuel rest hfuel hends
  have hpos := hopens.length_pos
  obtain ⟨fuel, rfl⟩ : ∃ n, fuel = n + 1 := ⟨fuel - 1, by omega⟩
  exact h hfuel hends

/-- **A legible value reads back**, whatever may stand behind it. -/
theorem Legible.readsBack {j : Json} (h : Legible depth j) : ReadsBack depth j := by
  induction h with
  | @null depth =>
      have legible : Legible depth .null := .null
      exact readsBack_of_succ legible.opens fun _ _ _ _ => rfl
  | @bool depth value =>
      have legible : Legible depth (.bool value) := .bool value
      refine readsBack_of_succ legible.opens fun _ _ _ _ => ?_
      cases value <;> rfl
  | int digits =>
      exact readsBack_of_succ (opens_intDigits _) fun _ _ _ hends => value_int digits hends
  | @str depth value =>
      have legible : Legible depth (.str value) := .str value
      refine readsBack_of_succ legible.opens fun fuel rest _ _ => ?_
      show (require (string? (value.toList.flatMap escapeChar ++ ['"'] ++ rest))).map Json.str = _
      rw [List.append_assoc, List.singleton_append, string?_escaped]
      rfl
  | @arr depth items legible ih =>
      refine readsBack_of_succ (Legible.arr legible).opens fun fuel rest hfuel _ => ?_
      cases items with
      | nil => rfl
      | cons j js =>
          rw [write_arr_cons, List.length_cons] at hfuel
          rw [write_arr_cons, List.cons_append,
            value_arr ((legible j List.mem_cons_self).opens.append.append),
            items_write legible ih (by omega)]
          rfl
  | @obj depth members keys legible ih =>
      refine readsBack_of_succ (Legible.obj keys legible).opens fun fuel rest hfuel _ => ?_
      cases members with
      | nil => rfl
      | cons m ms =>
          obtain ⟨key, j⟩ := m
          simp only [write_obj_cons, List.length_cons, List.length_append] at hfuel
          have hopens : Opens (writeString key) := ⟨_, _, rfl, rfl, by decide, by decide⟩
          have hmembers : members fuel depth []
                (writeString key ++ ':' :: (j.write ++ writeMembers ms ++ rest)) =
              .ok ([] ++ (key, j) :: ms, rest) :=
            members_write legible ih keys (by simp only [List.length_append]; omega)
          rw [write_obj_cons, List.cons_append, List.append_assoc, List.cons_append,
            value_obj hopens.append, hmembers]
          rfl

/-- **What is written is read.** -/
theorem readWithin_write {j : Json} (h : Legible depth j) : readWithin depth j.write = .ok j := by
  have hvalue : value (2 * j.write.length + 1) depth (j.write ++ []) = .ok (j, []) :=
    h.readsBack (by omega) (by simp [Ends])
  rw [List.append_nil] at hvalue
  rw [readWithin, hvalue]
  rfl

end LoadDispatch.Json
