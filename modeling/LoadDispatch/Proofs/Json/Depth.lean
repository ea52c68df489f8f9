import LoadDispatch.Proofs.Json.Reading

/-!
# How deep a reader of JSON goes

The reader has a bound for the nesting of values.  A text that opens more arrays than that is
refused as too deep, whatever follows (`readWithin_of_open_arrays`), so there is such a text for
every bound.  The bound decides nothing else: what is not refused for its depth is read alike with
every larger one (`readWithin_mono`).
-/

namespace LoadDispatch.Json

variable {α β : Type} {depth depth' fuel : Nat} {rest : List Char}

/-! ## Texts that are nested too deep -/

theorem value_of_open_arrays (h : 2 * depth < fuel) :
    value fuel depth (List.replicate (depth + 1) '[' ++ rest) = .error (.tooDeep false) := by
  induction depth generalizing fuel with
  | zero =>
      obtain ⟨fuel, rfl⟩ : ∃ n, fuel = n + 1 := ⟨fuel - 1, by omega⟩
      rfl
  | succ depth ih =>
      obtain ⟨fuel, rfl⟩ : ∃ n, fuel = n + 2 := ⟨fuel - 2, by omega⟩
      have hopens : Opens (List.replicate (depth + 1) '[' ++ rest) :=
        ⟨'[', _, rfl, rfl, by decide, by decide⟩
      rw [List.replicate_succ, List.cons_append, value_arr hopens, items, ih (by omega)]
      rfl

/-- **A text that opens more arrays than the reader goes deep is refused as too deep**, whatever
comes behind them. -/
theorem readWithin_of_open_arrays {count : Nat} (h : depth < count) :
    readWithin depth (List.replicate count '[' ++ rest) = .error (.tooDeep false) := by
  obtain ⟨more, rfl⟩ : ∃ n, count = depth + 1 + n := ⟨count - (depth + 1), by omega⟩
  rw [readWithin, ← List.replicate_append_replicate, List.append_assoc, value_of_open_arrays]
  simp only [List.length_append, List.length_replicate]
  omega

/-! ## Larger bounds -/

/-- A text is not refused for its depth. -/
def Fits (r : Except Failure α) : Prop :=
  ∀ inObject, r ≠ .error (.tooDeep inObject)

theorem fits_ok (a : α) : Fits (.ok a) := by
  rintro inObject ⟨⟩

/-- Whether a refusal is one for the depth does not depend on what would have been read. -/
theorem Fits.of_error {failure : Failure} (h : Fits (α := α) (.error failure)) :
    Fits (α := β) (.error failure) := by
  rintro inObject ⟨⟩
  exact h inObject rfl

theorem Fits.of_map {f : α → β} {r : Reading α} (h : Fits (r.map f)) : Fits r := by
  rintro inObject rfl
  exact h inObject rfl

/-- What is read within one bound is read alike within another. -/
structure ReadsAlike (fuel depth depth' : Nat) : Prop where
  /-- Values. -/
  value : ∀ cs, Fits (value fuel depth cs) → value fuel depth' cs = value fuel depth cs
  /-- Items of an array. -/
  items : ∀ cs, Fits (items fuel depth cs) → items fuel depth' cs = items fuel depth cs
  /-- Members of an object. -/
  members : ∀ done cs, Fits (members fuel depth done cs) →
    members fuel depth' done cs = members fuel depth done cs

theorem ReadsAlike.value_succ (ih : ∀ d d', d ≤ d' → ReadsAlike fuel d d') (hle : depth ≤ depth')
    (cs : List Char) : Fits (Json.value (fuel + 1) depth cs) →
      Json.value (fuel + 1) depth' cs = Json.value (fuel + 1) depth cs := by
  rw [Json.value, Json.value]
  split
  · exact fun _ => rfl
  · next rest _ =>
      cases depth with
      | zero => exact fun h => absurd rfl (h false)
      | succ d =>
          obtain ⟨d', rfl⟩ : ∃ n, depth' = n + 1 := ⟨depth' - 1, by omega⟩
          dsimp only
          split
          · exact fun _ => rfl
          · exact fun h => by rw [(ih d d' (by omega)).items rest h.of_map]
  · next rest _ =>
      cases depth with
      | zero => exact fun h => absurd rfl (h true)
      | succ d =>
          obtain ⟨d', rfl⟩ : ∃ n, depth' = n + 1 := ⟨depth' - 1, by omega⟩
          dsimp only
          split
          · exact fun _ => rfl
          · exact fun h => by rw [(ih d d' (by omega)).members [] rest h.of_map]
  · exact fun _ => rfl

theorem ReadsAlike.items_succ (ih : ReadsAlike fuel depth depth') (cs : List Char) :
    Fits (Json.items (fuel + 1) depth cs) →
      Json.items (fuel + 1) depth' cs = Json.items (fuel + 1) depth cs := by
  rw [Json.items, Json.items]
  cases hvalue : Json.value fuel depth cs with
  | error failure =>
      intro h
      rw [ih.value cs (hvalue ▸ h.of_error), hvalue]
  | ok answer =>
      rw [ih.value cs (hvalue ▸ fits_ok answer), hvalue]
      dsimp only
      split
      · next rest _ => exact fun h => by rw [ih.items rest h.of_map]
      · exact fun _ => rfl
      · exact fun _ => rfl

theorem ReadsAlike.members_succ (ih : ReadsAlike fuel depth depth') (done : List (String × Json))
    (cs : List Char) : Fits (Json.members (fuel + 1) depth done cs) →
      Json.members (fuel + 1) depth' done cs = Json.members (fuel + 1) depth done cs := by
  rw [Json.members, Json.members]
  split
  · next rest _ =>
    split
    · exact fun _ => rfl
    · next key rest _ =>
      split
      · next rest _ =>
        cases hvalue : Json.value fuel depth rest with
        | error failure =>
            intro h
            rw [ih.value rest (hvalue ▸ h.of_error), hvalue]
        | ok answer =>
            rw [ih.value rest (hvalue ▸ fits_ok answer), hvalue]
            dsimp only
            split
            · exact fun h => ih.members _ _ h
            · exact fun _ => rfl
            · exact fun _ => rfl
      · exact fun _ => rfl
  · exact fun _ => rfl

theorem readsAlike (hle : depth ≤ depth') : ReadsAlike fuel depth depth' := by
  induction fuel generalizing depth depth' with
  | zero => exact ⟨fun _ _ => rfl, fun _ _ => rfl, fun _ _ _ => rfl⟩
  | succ fuel ih =>
      exact ⟨ReadsAlike.value_succ (fun _ _ h => ih h) hle, (ih hle).items_succ,
        (ih hle).members_succ⟩

/-- **What is not refused for its depth is read alike with every larger bound.** -/
theorem readWithin_mono {cs : List Char} (hle : depth ≤ depth')
    (h : Fits (readWithin depth cs)) : readWithin depth' cs = readWithin depth cs := by
  revert h
  rw [readWithin, readWithin]
  cases hvalue : value (2 * cs.length + 1) depth cs with
  | error failure =>
      intro h
      rw [(readsAlike hle).value cs (hvalue ▸ h.of_error), hvalue]
  | ok answer =>
      rw [(readsAlike hle).value cs (hvalue ▸ fits_ok answer), hvalue]
      exact fun _ => rfl

end LoadDispatch.Json
