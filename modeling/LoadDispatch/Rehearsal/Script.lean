import LoadDispatch.RetryBudget

/-!
# Scripts

A rehearsal runs a load against services that follow a script.  A script is a table of step lists;
steps are taken from the front, and a list comes to its end in one of two ways: it is over, or its
last step is repeated for ever.

A budget is rehearsed by asking it for any number of submissions in a row (`RetryBudget.spendMany`).
-/

namespace LoadDispatch.Rehearsal

/-- A table from keys to the steps that are left for them. -/
abbrev Script (κ σ : Type) : Type := List (κ × List σ)

namespace Script

variable {κ σ : Type} [BEq κ]

/-- The steps that are left for a key. -/
def steps (s : Script κ σ) (key : κ) : List σ :=
  (s.lookup key).getD []

/-- The table with other steps left for a key that it has. -/
def set (s : Script κ σ) (key : κ) (steps : List σ) : Script κ σ :=
  s.map fun entry => if entry.1 == key then (entry.1, steps) else entry

/-- Takes the next step for a key; there is none once the list is over. -/
def take (s : Script κ σ) (key : κ) : Option σ × Script κ σ :=
  match s.steps key with
  | [] => (none, s)
  | step :: rest => (some step, s.set key rest)

/-- Takes the next step for a key; the last one is never used up. -/
def takeRepeating (s : Script κ σ) (key : κ) : Option σ × Script κ σ :=
  match s.steps key with
  | [] => (none, s)
  | [step] => (some step, s)
  | step :: rest => (some step, s.set key rest)

end Script

/-- Asks for `n` submissions in a row; the answers with the count after each, and what is left. -/
def RetryBudget.spendMany : Nat → RetryBudget → List (Bool × Nat) × RetryBudget
  | 0, b => ([], b)
  | n + 1, b =>
    let next := b.spend?.getD b
    let (steps, last) := spendMany n next
    ((b.spend?.isSome, next.used) :: steps, last)

/-- Submissions are granted until the budget is used up, and refused from then on. -/
theorem RetryBudget.map_fst_spendMany (n : Nat) (b : RetryBudget) :
    (spendMany n b).1.map Prod.fst =
      List.replicate (min n (b.limit - b.used)) true ++
        List.replicate (n - (b.limit - b.used)) false := by
  induction n generalizing b with
  | zero => simp [spendMany]
  | succ n ih =>
      simp only [spendMany, List.map_cons, ih]
      cases hb : b.spend? with
      | none =>
          have hspent : b.limit - b.used = 0 := by
            have := b.spend?_eq_none_iff.mp hb
            omega
          simp [hspent, List.replicate_succ]
      | some next =>
          obtain ⟨hlimit, hused⟩ := LoadDispatch.RetryBudget.spend?_eq_some hb
          obtain ⟨k, hleft⟩ : ∃ k, b.limit - b.used = k + 1 := by
            have := next.used_le
            exact ⟨b.limit - b.used - 1, by omega⟩
          have hnext : next.limit - next.used = k := by omega
          simp [hleft, hnext, Nat.add_min_add_right, List.replicate_succ]

end LoadDispatch.Rehearsal
