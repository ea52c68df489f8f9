import LoadDispatch.Pool.Checks
import LoadDispatch.Proofs.Attempt.Rules

/-!
# Asking one after the other and side by side

A pass asks about everyone in flight, and may have several queries in progress at once.  With rules
for the answers that makes no difference: everyone has one query at most in a pass, so its answer is
settled by the calls before the pass, whatever else is asked about in the meantime
(`Attempt.toldBy`).  `AsksAll.eq_toldBy` says so of asking one after the other, and
`Checks.Run.answers_eq` of checks that begin and end in any order, with any number of permits.
-/

namespace LoadDispatch

/-- What an attempt is told in a pass, given the rules and the events before the pass. -/
def Attempt.toldBy (rules : SessionRules) (before : List Event) (a : Attempt) :
    Except Fault PolledStatus :=
  match a.asksFor with
  | some _ => absorb (rules.poll a.session (history (callsOn a.session before)))
  | none => a.statusUnasked

section Sequence

variable {rules : SessionRules} {before events : List Event} {as : List Attempt} {a : Attempt}
  {answers : List (Except Fault PolledStatus)}

theorem Attempt.Asks.eq_toldBy {own : List Event} {answer : Except Fault PolledStatus}
    (h : a.Asks own answer)
    (hf : rules.Follows a.session (callsOn a.session before ++ callsOn a.session own)) :
    answer = a.toldBy rules before := by
  unfold toldBy
  rcases h.query with ⟨hnone, -, rfl⟩ | ⟨job, reply, hsome, hcalls, rfl⟩
  · rw [hnone]
  · rw [hcalls] at hf
    have hreply : reply = _ := hf.next
    rw [hsome, hreply]

/-- Asked one after the other, everyone is told what the rules say. -/
theorem AsksAll.eq_toldBy (h : AsksAll as events answers) (hn : (sessionsOf as).Nodup)
    (hobeyed : rules.Obeyed (before ++ events)) :
    answers = as.map (·.toldBy rules before) := by
  have hlength : as.length = answers.length := h.length_eq
  have heach : ∀ pair ∈ as.zip answers, pair.2 = pair.1.toldBy rules before := by
    rintro ⟨a, answer⟩ hmem
    obtain ⟨own, hask, hcalls⟩ := h.of_mem_zip hn hmem
    refine hask.eq_toldBy ?_
    rw [← hcalls, ← callsOn_append]
    exact hobeyed.calls a.session
  calc answers = (as.zip answers).map Prod.snd := (List.map_snd_zip hlength.ge).symm
    _ = (as.zip answers).map fun pair => pair.1.toldBy rules before := List.map_congr_left heach
    _ = ((as.zip answers).map Prod.fst).map (·.toldBy rules before) := by rw [List.map_map]; rfl
    _ = as.map (·.toldBy rules before) := by rw [List.map_fst_zip hlength.le]

end Sequence

/-! ## Side by side -/

/-- A check is in progress only if there is somebody to ask, and ends with what the rules say. -/
def StatusCheck.Told (rules : SessionRules) (before : List Event) (c : StatusCheck) : Prop :=
  match c.state with
  | .waiting => True
  | .asking => ∃ job, c.attempt.asksFor = some job
  | .ended answer => answer = c.attempt.toldBy rules before

namespace Checks

/-- The answers seen of checks are those of the rules, given the events before the pass. -/
def Obeyed (rules : SessionRules) (before : List Event) (seen : List CheckEvent) : Prop :=
  ∀ s answer, .answered s answer ∈ seen → answer = rules.poll s (history (callsOn s before))

variable {rules : SessionRules} {before : List Event} {atOnce : Nat}
  {checks last : List StatusCheck} {seen : List CheckEvent}

theorem Step.told (h : Step atOnce checks seen last) (hobeyed : Obeyed rules before seen)
    (hall : ∀ c ∈ checks, c.Told rules before) : ∀ c ∈ last, c.Told rules before := by
  obtain ⟨⟨_, _, hstep⟩⟩ := h
  simp only [List.forall_mem_append, List.forall_mem_cons] at hall ⊢
  obtain ⟨hfront, hat, hbehind⟩ := hall
  refine ⟨hfront, ?_, hbehind⟩
  cases hstep with
  | skip hnone => simp only [StatusCheck.Told, Attempt.toldBy, hnone]
  | ask hsome => exact ⟨_, hsome⟩
  | answer answer =>
      obtain ⟨job, hsome⟩ := hat
      have hanswer := hobeyed _ _ List.mem_cons_self
      simp only [StatusCheck.Told, Attempt.toldBy, hsome, hanswer]

/-- **Whatever the order of the checks, everyone is told what the rules say.** -/
theorem Run.told (h : Run atOnce checks seen last) (hobeyed : Obeyed rules before seen)
    (hall : ∀ c ∈ checks, c.Told rules before) :
    (∀ c ∈ last, c.Told rules before) ∧ last.map (·.attempt) = checks.map (·.attempt) := by
  induction h with
  | refl => exact ⟨hall, rfl⟩
  | tail _ hstep ih =>
      obtain ⟨hmiddle, hattempts⟩ := ih fun s answer he =>
        hobeyed s answer (List.mem_append_left _ he)
      refine ⟨hstep.told (fun s answer he => hobeyed s answer (List.mem_append_right _ he))
        hmiddle, ?_⟩
      obtain ⟨hat⟩ := hstep
      rw [hat.map_attempt, hattempts]

/-- Once all checks have ended, the answers are what everyone was told. -/
theorem eq_map_of_answers? {answers : List (Except Fault PolledStatus)}
    (htold : ∀ c ∈ last, c.Told rules before) (h : answers? last = some answers) :
    answers = last.map (·.attempt.toldBy rules before) := by
  induction last generalizing answers with
  | nil =>
      cases h
      rfl
  | cons c rest ih =>
      rw [List.forall_mem_cons] at htold
      simp only [answers?, List.mapM_cons, Option.bind_eq_bind, Option.bind_eq_some_iff] at h
      obtain ⟨answer, hanswer, others, hothers, heq⟩ := h
      cases heq
      rw [List.map_cons, ih htold.2 hothers]
      obtain ⟨a, state⟩ := c
      cases state with
      | waiting | asking => cases hanswer
      | ended reply =>
          have hreply : reply = a.toldBy rules before := htold.1
          rw [← Option.some.inj hanswer, ← hreply]

/-- Checks of attempts that have all ended have the answers that the rules say. -/
theorem Run.answers_eq {as : List Attempt} {answers : List (Except Fault PolledStatus)}
    (h : Run atOnce (initial as) seen last) (hobeyed : Obeyed rules before seen)
    (hended : answers? last = some answers) : answers = as.map (·.toldBy rules before) := by
  have hwaiting : ∀ c ∈ initial as, c.Told rules before := by
    intro c hc
    obtain ⟨a, -, rfl⟩ := List.mem_map.mp hc
    trivial
  obtain ⟨htold, hattempts⟩ := h.told hobeyed hwaiting
  have hinitial : (initial as).map (·.attempt) = as := by
    rw [initial, List.map_map]
    exact List.map_id as
  rw [hinitial] at hattempts
  rw [eq_map_of_answers? htold hended, ← hattempts, List.map_map]
  rfl

end Checks

end LoadDispatch
