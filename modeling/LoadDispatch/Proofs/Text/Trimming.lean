import LoadDispatch.Text.Blank
import Mathlib.Data.List.DropRight

/-!
# Trimming

What is trimmed off a text and what stays.  A text is its trimmed form with nothing but characters
of the trimmed kind around it (`exists_stripWhile`), and there is only one such form
(`stripWhile_eq`): it has no character of that kind at either of its ends.  The same goes for
trimming at the end alone.
-/

namespace LoadDispatch.Text

variable {p : Char → Bool} {cs core front back : List Char}

/-! ## At the end -/

/-- What is dropped from the end satisfies the condition. -/
theorem exists_rdropWhile (p : Char → Bool) (cs : List Char) :
    ∃ tail, cs = cs.rdropWhile p ++ tail ∧ ∀ c ∈ tail, p c = true :=
  ⟨cs.rtakeWhile p, List.rdropWhile_append_rtakeWhile.symm, fun _ hc => List.mem_rtakeWhile_imp hc⟩

/-- What stays does not end in a character that satisfies the condition. -/
theorem eq_false_of_mem_getLast?_rdropWhile {c : Char} (h : c ∈ (cs.rdropWhile p).getLast?) :
    p c = false := by
  have hne : cs.rdropWhile p ≠ [] := by
    intro hnil
    rw [hnil] at h
    cases h
  have hlast := List.rdropWhile_last_not p cs hne
  rw [List.getLast?_eq_some_getLast hne, Option.mem_some_iff] at h
  rw [← h]
  exact Bool.eq_false_iff.mpr hlast

/-- There is one way to drop a tail so that nothing is left to drop. -/
theorem rdropWhile_eq (hcore : ∀ c ∈ core.getLast?, p c = false)
    (hback : ∀ c ∈ back, p c = true) : (core ++ back).rdropWhile p = core := by
  have hreverse : (core ++ back).reverse.dropWhile p = core.reverse.dropWhile p := by
    rw [List.reverse_append]
    exact List.dropWhile_append_of_pos fun c hc => hback c (List.mem_reverse.mp hc)
  rw [List.rdropWhile, hreverse]
  exact List.rdropWhile_eq_self_iff.mpr fun hne => by
    rw [hcore _ (List.getLast_mem_getLast? hne)]
    exact Bool.false_ne_true

/-! ## At both ends -/

theorem stripWhile_eq_rdropWhile (p : Char → Bool) (cs : List Char) :
    stripWhile p cs = (cs.dropWhile p).rdropWhile p :=
  rfl

/-- What stays is the text without what is trimmed off, which all satisfies the condition. -/
theorem exists_stripWhile (p : Char → Bool) (cs : List Char) :
    ∃ front back, cs = front ++ stripWhile p cs ++ back ∧ (∀ c ∈ front, p c = true) ∧
      ∀ c ∈ back, p c = true := by
  obtain ⟨back, hback, hall⟩ := exists_rdropWhile p (cs.dropWhile p)
  refine ⟨cs.takeWhile p, back, ?_, fun c hc => List.mem_takeWhile_imp hc, hall⟩
  calc cs = cs.takeWhile p ++ cs.dropWhile p := List.takeWhile_append_dropWhile.symm
    _ = cs.takeWhile p ++ (stripWhile p cs ++ back) := congrArg (cs.takeWhile p ++ ·) hback
    _ = cs.takeWhile p ++ stripWhile p cs ++ back := (List.append_assoc _ _ _).symm

theorem eq_false_of_mem_getLast?_stripWhile {c : Char} (h : c ∈ (stripWhile p cs).getLast?) :
    p c = false :=
  eq_false_of_mem_getLast?_rdropWhile h

theorem eq_false_of_mem_head?_stripWhile {c : Char} (h : c ∈ (stripWhile p cs).head?) :
    p c = false := by
  -- Dropping at the end takes nothing from the head, as long as anything is left.
  obtain ⟨tail, htail⟩ := List.rdropWhile_prefix p (l := cs.dropWhile p)
  have hhead : (cs.dropWhile p).head? = some c := by
    rw [← htail, List.head?_append, ← stripWhile_eq_rdropWhile, Option.mem_def.mp h]
    rfl
  have hnot := List.head?_dropWhile_not p cs
  rw [hhead] at hnot
  exact hnot

/-- There is one way to trim a text so that nothing is left to trim. -/
theorem stripWhile_eq (hne : core ≠ []) (hfront : ∀ c ∈ front, p c = true)
    (hhead : ∀ c ∈ core.head?, p c = false) (hlast : ∀ c ∈ core.getLast?, p c = false)
    (hback : ∀ c ∈ back, p c = true) : stripWhile p (front ++ core ++ back) = core := by
  have hdrop : (front ++ core ++ back).dropWhile p = core ++ back := by
    obtain ⟨c, rest, rfl⟩ := List.exists_cons_of_ne_nil hne
    rw [List.append_assoc, List.dropWhile_append_of_pos hfront, List.cons_append,
      List.dropWhile_cons_of_neg]
    rw [hhead c rfl]
    exact Bool.false_ne_true
  rw [stripWhile_eq_rdropWhile, hdrop]
  exact rdropWhile_eq hlast hback

theorem stripWhile_eq_nil_iff : stripWhile p cs = [] ↔ ∀ c ∈ cs, p c = true := by
  constructor
  · intro hnil
    obtain ⟨front, back, hcs, hfront, hback⟩ := exists_stripWhile p cs
    rw [hnil, List.append_nil] at hcs
    rw [hcs]
    exact fun c hc => (List.mem_append.mp hc).elim (hfront c) (hback c)
  · intro hall
    rw [stripWhile_eq_rdropWhile, List.dropWhile_eq_nil_iff.mpr hall, List.rdropWhile_nil]

end LoadDispatch.Text
