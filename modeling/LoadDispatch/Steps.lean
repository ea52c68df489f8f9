/-!
# Runs of a step relation

`Steps` is the closure of a step relation that is labelled with lists of events.  An invariant may
speak of all events so far: `Steps.keeps` is the induction over a run, done once.
-/

namespace LoadDispatch

variable {σ ε : Type}

/-- Any number of steps, with all their events. -/
inductive Steps (step : σ → List ε → σ → Prop) : σ → List ε → σ → Prop where
  /-- No step. -/
  | refl (s : σ) : Steps step s [] s
  /-- One step more. -/
  | tail {s t u : σ} {xs ys : List ε} : Steps step s xs t → step t ys u → Steps step s (xs ++ ys) u

namespace Steps

variable {step : σ → List ε → σ → Prop} {s t u : σ} {xs ys : List ε}

theorem single (h : step s xs t) : Steps step s xs t := by
  simpa using Steps.tail (.refl s) h

theorem trans (h₁ : Steps step s xs t) (h₂ : Steps step t ys u) :
    Steps step s (xs ++ ys) u := by
  induction h₂ with
  | refl => simpa using h₁
  | tail _ last ih =>
      rw [← List.append_assoc]
      exact .tail ih last

/-- **What every step keeps, a run keeps.**  The invariant is about the events so far and the
state that they have led to. -/
theorem keeps {I : List ε → σ → Prop}
    (hstep : ∀ xs s ys t, I xs s → step s ys t → I (xs ++ ys) t)
    (hI : I xs s) (run : Steps step s ys t) : I (xs ++ ys) t := by
  induction run with
  | refl => simpa using hI
  | tail _ last ih =>
      rw [← List.append_assoc]
      exact hstep _ _ _ _ ih last

/-- A run has no step or begins with one. -/
theorem cases_head (h : Steps step s xs t) :
    (xs = [] ∧ t = s) ∨ ∃ ys u zs, xs = ys ++ zs ∧ step s ys u ∧ Steps step u zs t := by
  induction h with
  | refl => exact .inl ⟨rfl, rfl⟩
  | tail _ last ih =>
      obtain ⟨rfl, rfl⟩ | ⟨ys, u, zs, rfl, hfirst, hrest⟩ := ih
      · exact .inr ⟨_, _, [], by simp, last, .refl _⟩
      · exact .inr ⟨ys, u, zs ++ _, by simp, hfirst, .tail hrest last⟩

end Steps

end LoadDispatch
