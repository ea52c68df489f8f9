import LoadDispatch.Proofs.Schema.Projection
import LoadDispatch.Settings
import Mathlib.Tactic.MkIffOfInductiveProp

/-!
# What the sources of settings say

A field of the settings is looked up in the sources, and what is found there is read by the kind of
the field; if nothing is found, the default counts.  `Says` is that for one field and `Parses` for
all of them, without the table of members in between: every field finds its own value in the table
(`find?_members`), so the fields are read exactly if all parse (`readFields_eq_ok_iff`).  If some do
not, everything that is reported is about one of the fields.
-/

namespace LoadDispatch

open Schema (Field Reading Rule Violation)

/-! ## Violations of two readings -/

namespace Schema.Reading

variable {α β : Type}

/-- What is wrong with a value. -/
def violations : Reading α → List Violation
  | .ok _ => []
  | .error violations => violations

theorem violations_pair (x : Reading α) (y : Reading β) :
    violations (x.pair y) = violations x ++ violations y := by
  cases x <;> cases y <;> simp [violations, pair]

/-- Two readings that would say why they fail do so together. -/
theorem pair_ne_error_nil {x : Reading α} {y : Reading β} (hx : x ≠ .error [])
    (hy : y ≠ .error []) : x.pair y ≠ .error [] := by
  cases x <;> cases y <;> simp_all [pair]

end Schema.Reading

/-! ## Fields and their sources -/

namespace Settings

variable {α : Type} {sources : Sources} {s : Settings} {f : Field} {read : Json → Except Rule α}
  {default a : α}

/-- A setting is what its source says, or its default if no source has a value for it. -/
inductive Says (sources : Sources) (f : Field) (read : Json → Except Rule α) (default : α) :
    α → Prop where
  /-- A source has a value that can be read. -/
  | said {j : Json} {a : α} (there : sources.value? f = some j) (fits : read j = .ok a) :
      Says sources f read default a
  /-- No source has a value. -/
  | unsaid (missing : sources.value? f = none) : Says sources f read default default

/-- Every field of the sources parses, and these are the settings they say. -/
@[mk_iff]
structure Parses (sources : Sources) (s : Settings) : Prop where
  /-- The address of the storage system. -/
  metadataEndpoint : Says sources metadataEndpointField Schema.readText
    ({} : Settings).metadataEndpoint s.metadataEndpoint
  /-- The address of the job service. -/
  jobServiceEndpoint : Says sources jobServiceEndpointField Schema.readText
    ({} : Settings).jobServiceEndpoint s.jobServiceEndpoint
  /-- The seconds to wait for each step of a request. -/
  requestTimeout : Says sources requestTimeoutField Schema.readReal
    ({} : Settings).requestTimeout s.requestTimeout
  /-- The number of replicas. -/
  defaultReplication : Says sources defaultReplicationField Schema.readWhole
    ({} : Settings).defaultReplication s.defaultReplication
  /-- The greatest number of jobs in flight. -/
  maxActiveJobs : Says sources maxActiveJobsField Schema.readWhole
    ({} : Settings).maxActiveJobs s.maxActiveJobs
  /-- The submissions of each job. -/
  maxSubmitAttempts : Says sources maxSubmitAttemptsField Schema.readWhole
    ({} : Settings).maxSubmitAttempts s.maxSubmitAttempts
  /-- The seconds to wait between two passes. -/
  pollInterval : Says sources pollIntervalField Schema.readReal
    ({} : Settings).pollInterval s.pollInterval
  /-- The greatest number of status queries at once. -/
  statusCheckConcurrency : Says sources statusCheckConcurrencyField Schema.readWhole
    ({} : Settings).statusCheckConcurrency s.statusCheckConcurrency
  /-- The name of the log level, as it is given. -/
  logLevel : Says sources logLevelField Schema.readText
    ({} : Settings).logLevel s.logLevel

/-- All fields go by one name, and no two by the same. -/
theorem fields_simple : (∀ f ∈ fields, f.wireName = none) ∧ (fields.map Field.name).Nodup := by
  decide

/-- In a table made from some of the keys, each under a name of its own, a key finds what was made
from it. -/
theorem lookup_filterMap {β κ : Type} {name : κ → String} {value? : κ → Option β} {k : κ} :
    ∀ {ks : List κ}, (ks.map name).Nodup → k ∈ ks →
      (ks.filterMap fun k => (value? k).map (name k, ·)).lookup (name k) = value? k := by
  intro ks
  induction ks with
  | nil => exact fun _ hk => absurd hk List.not_mem_nil
  | cons first rest ih =>
      intro hnodup hk
      obtain ⟨hfirst, hrest⟩ := List.nodup_cons.mp hnodup
      rcases List.mem_cons.mp hk with rfl | hk
      · cases hvalue : value? k with
        | some value => simp [hvalue]
        | none =>
            -- Nothing was made from the key, and no other one has its name.
            rw [List.filterMap_cons_none (by simp [hvalue]), List.lookup_eq_none_iff]
            intro entry hentry
            obtain ⟨other, hother, hmade⟩ := List.mem_filterMap.mp hentry
            obtain ⟨value, -, rfl⟩ := Option.map_eq_some_iff.mp hmade
            exact bne_iff_ne.mpr fun hname => hfirst (List.mem_map.mpr ⟨other, hother, hname.symm⟩)
      · have hne : (name k == name first) = false :=
          beq_false_of_ne fun hname => hfirst (List.mem_map.mpr ⟨k, hk, hname⟩)
        cases hvalue : value? first with
        | some value =>
            rw [List.filterMap_cons_some (by rw [hvalue]; rfl), List.lookup_cons, hne]
            exact ih hrest hk
        | none =>
            rw [List.filterMap_cons_none (by simp [hvalue])]
            exact ih hrest hk

/-- A field finds its own value among those of all fields. -/
theorem find?_members (h : f ∈ fields) :
    f.find? sources.members = (sources.value? f).map (f.name, ·) := by
  have hwire : f.wireName = none := fields_simple.1 f h
  rw [Field.find?_of_name (by simp [hwire])]
  exact congrArg (Option.map (f.name, ·)) (lookup_filterMap fields_simple.2 h)

theorem optional_eq_ok_iff (h : f ∈ fields) :
    f.optional default (.ofScalar ∘ read) sources.members = .ok a ↔
      Says sources f read default a := by
  rw [Field.optional_eq_ok_iff, find?_members h]
  constructor
  · rintro (⟨key, j, hj, hread⟩ | ⟨hnone, rfl⟩)
    · obtain ⟨j', hj', heq⟩ := Option.map_eq_some_iff.mp hj
      cases heq
      exact .said hj' (Reading.ofScalar_eq_ok_iff.mp hread)
    · exact .unsaid (Option.map_eq_none_iff.mp hnone)
  · rintro (⟨hj, hread⟩ | hnone)
    · exact .inl ⟨_, _, by rw [hj]; rfl, Reading.ofScalar_eq_ok_iff.mpr hread⟩
    · exact .inr ⟨Option.map_eq_none_iff.mpr hnone, rfl⟩

/-- The fields are read exactly if all parse. -/
theorem readFields_eq_ok_iff : readFields sources.members = .ok s ↔ Parses sources s := by
  rw [parses_iff]
  repeat rw [← optional_eq_ok_iff (by decide)]
  simp only [← Reading.pair_eq_ok_iff]
  unfold readFields
  dsimp only
  split
  · next hall =>
    rw [hall]
    cases s
    simp
  · next hall =>
    rw [hall]
    simp

/-- What is wrong with a field is said under its name. -/
theorem violations_optional {v : Violation} (h : f ∈ fields)
    (hv : v ∈ (f.optional default (.ofScalar ∘ read) sources.members).violations) :
    v.location = [.member f.name] := by
  unfold Field.optional at hv
  rw [find?_members h] at hv
  cases hj : sources.value? f with
  | none =>
      rw [hj] at hv
      cases hv
  | some j =>
      rw [hj] at hv
      cases hread : read j with
      | ok a => simp [hread, Reading.ofScalar, Reading.under, Reading.violations] at hv
      | error rule =>
          have hv : v = ⟨[.member f.name], rule⟩ := by
            simpa [hread, Reading.ofScalar, Reading.under, Reading.violations,
              Violation.under] using hv
          rw [hv]

theorem optional_ne_error_nil {members : List (String × Json)} :
    f.optional default (.ofScalar ∘ read) members ≠ .error [] := by
  unfold Field.optional
  split
  · next j _ => cases hread : read j <;> simp [hread, Reading.ofScalar, Reading.under]
  · simp

/-- Fields that cannot be read are reported at their names. -/
theorem readFields_eq_error {violations : List Violation}
    (h : readFields sources.members = .error violations) :
    violations ≠ [] ∧ ∀ v ∈ violations, ∃ f ∈ fields, v.location = [.member f.name] := by
  unfold readFields at h
  dsimp only at h
  split at h
  · cases h
  · next hall =>
    cases h
    refine ⟨?_, fun v hv => ?_⟩
    · rintro rfl
      revert hall
      repeat refine Reading.pair_ne_error_nil optional_ne_error_nil ?_
      exact optional_ne_error_nil
    · have hviolations : _ = violations := congrArg Reading.violations hall
      simp only [Reading.violations_pair] at hviolations
      rw [← hviolations] at hv
      simp only [List.mem_append] at hv
      rcases hv with hv | hv | hv | hv | hv | hv | hv | hv | hv <;>
        exact ⟨_, by decide, violations_optional (by decide) hv⟩

end Settings

end LoadDispatch
