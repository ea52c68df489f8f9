import LoadDispatch.Proofs.Http.Agreement
import LoadDispatch.Proofs.Load.Order

/-!
# What a command may rely on

The arguments and the settings of a command are checked before anything is loaded.  So its load has
a replication and a capacity of at least one, and every job that it submits fits its schema: none of
the faults about these comes up in a command.
-/

namespace LoadDispatch

/-- Settings that were read keep all rules. -/
theorem Settings.rules_kept {sources : Settings.Sources} {s : Settings}
    (h : Settings.read sources = .ok s) : ∀ rule ∈ Settings.rules, rule.broken s = false := by
  have hread : ∃ s', Settings.checkRules s' = .ok s := by
    unfold Settings.read at h
    cases hfields : Settings.readFields sources.members with
    | error violations =>
        rw [hfields] at h
        cases h
    | ok s' =>
        rw [hfields] at h
        dsimp only at h
        cases hcheck : Settings.checkRules s' with
        | error violations =>
            rw [hcheck] at h
            cases h
        | ok s'' =>
            rw [hcheck] at h
            cases h
            exact ⟨s', hcheck⟩
  obtain ⟨s', hcheck⟩ := hread
  unfold Settings.checkRules at hcheck
  split at hcheck
  · cases hcheck
  · rename_i hnone
    cases hcheck
    intro rule hrule
    -- The log level, which takes another form, is under no rule.
    have hsame : rule.broken { s' with logLevel := Text.upper (Text.trim s'.logLevel) } =
        rule.broken s' := by
      simp only [Settings.rules, List.mem_cons, List.not_mem_nil, or_false] at hrule
      rcases hrule with rfl | rfl | rfl | rfl | rfl | rfl | rfl | rfl <;> rfl
    rw [hsame]
    simpa using List.find?_eq_none.mp hnone rule hrule

/-- Settings that were read have a replication and a capacity. -/
theorem Settings.one_le {sources : Settings.Sources} {s : Settings}
    (h : Settings.read sources = .ok s) : 1 ≤ s.defaultReplication ∧ 1 ≤ s.maxActiveJobs := by
  have hkept := Settings.rules_kept h
  simp only [Settings.rules, List.mem_cons, List.not_mem_nil, or_false, forall_eq_or_imp,
    forall_eq, decide_eq_false_iff_not, not_lt] at hkept
  exact ⟨hkept.2.2.2.1, hkept.2.2.2.2.1⟩

namespace CommandLine

theorem one_le_of_positive? {s : String} {n : Int} (h : positive? s = some n) : 1 ≤ n := by
  unfold positive? at h
  split at h
  · split at h
    · cases h
      assumption
    · cases h
  · cases h

theorem one_le_of_optional? {value : Option String} {n : Int}
    (h : optional? positive? value = some (some n)) : 1 ≤ n := by
  cases value with
  | none => cases h
  | some s =>
      obtain ⟨m, hm, heq⟩ := Option.map_eq_some_iff.mp h
      cases heq
      exact one_le_of_positive? hm

/-- An invocation asks for a replication and a capacity of at least one, if it asks for them. -/
theorem one_le_of_wish {arguments : List String} {invocation : Invocation}
    (h : wish arguments = .run invocation) :
    (∀ n, invocation.replication = some n → 1 ≤ n) ∧
      ∀ n, invocation.activeJobs = some n → 1 ≤ n := by
  have hsplit : ∃ s : Split, s.invocation? = some invocation := by
    unfold wish at h
    split at h
    · cases h
    · rename_i s _
      split at h
      · cases h
      · cases h
      · split at h
        · rename_i hs
          cases h
          exact ⟨s, hs⟩
        · cases h
  obtain ⟨s, hs⟩ := hsplit
  unfold Split.invocation? at hs
  split at hs
  · obtain ⟨replication, hreplication, hs⟩ := Option.bind_eq_some_iff.mp hs
    obtain ⟨activeJobs, hactiveJobs, hs⟩ := Option.bind_eq_some_iff.mp hs
    cases hs
    refine ⟨?_, ?_⟩
    · rintro n rfl
      exact one_le_of_optional? hreplication
    · rintro n rfl
      exact one_le_of_optional? hactiveJobs
  · cases hs

/-- The load of a command has limits, and a replication of at least one. -/
theorem exists_limits_of_wish {arguments : List String} {invocation : Invocation}
    {sources : Settings.Sources} {settings : Settings} (hwish : wish arguments = .run invocation)
    (hsettings : Settings.read sources = .ok settings) :
    ∃ limits, settings.policy.limits? (loadRequest settings invocation) = .ok limits ∧
      1 ≤ (loadRequest settings invocation).replication := by
  obtain ⟨hreplication, hactiveJobs⟩ := one_le_of_wish hwish
  obtain ⟨hdefault, hcapacity⟩ := Settings.one_le hsettings
  have one_le : ∀ {given : Option Int} {default : Int}, (∀ n, given = some n → 1 ≤ n) →
      1 ≤ default → 1 ≤ given.getD default := by
    rintro (_ | n) default hgiven hdefault
    · exact hdefault
    · exact hgiven n rfl
  have hrequest : 1 ≤ (loadRequest settings invocation).replication :=
    one_le hreplication hdefault
  obtain ⟨limits, hlimits⟩ : ∃ limits,
      settings.policy.limits? (loadRequest settings invocation) = .ok limits :=
    exists_limits hrequest
      (show 1 ≤ invocation.activeJobs.getD settings.maxActiveJobs from one_le hactiveJobs hcapacity)
  exact ⟨limits, hlimits, hrequest⟩

end CommandLine

/-- A job with a replication of at least one fits its schema. -/
theorem Schema.LoadJobPayload.ofConfig_eq {config : JobConfig} (h : 1 ≤ config.replication) :
    Schema.LoadJobPayload.ofConfig config =
      .ok { filePath := config.path, replication := config.replication } := by
  have hle : ¬ config.replication < 1 := by omega
  have htype : typeField.find? [(filePathField.name, .str config.path),
      (replicationField.name, .int config.replication)] = none := rfl
  have hpath : filePathField.find? [(filePathField.name, .str config.path),
      (replicationField.name, .int config.replication)] = some (_, .str config.path) := rfl
  have hreplication : replicationField.find? [(filePathField.name, .str config.path),
      (replicationField.name, .int config.replication)] =
        some (_, .int config.replication) := rfl
  unfold ofConfig read readObject readMembers Field.optional Field.required
  simp only [htype, hpath, hreplication, Function.comp, readText, atLeast, readWhole, hle,
    if_false, Reading.ofScalar, Reading.under, Reading.pair, Reading.titled]

end LoadDispatch
