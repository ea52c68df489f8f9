import LoadDispatch.Pool.Basic
import LoadDispatch.Proofs.Decimal.Number
import LoadDispatch.Proofs.Settings.Parsing
import LoadDispatch.Proofs.Text.Trimming

/-!
# Which settings are accepted

Settings whose fields all parse (`Parses`) are held to the limits in `limits`, in their order.  The
rules are stated as what they refuse and the limits as what is to hold, and that is not the same for
a float: one that is not a number is neither at most zero nor above it.  A limit therefore has a
second part, what slips through.

`rules_enforce` pairs every rule with its limit.  An induction over these pairs (`find?_broken`)
turns the search for a broken rule into the first limit that is not met, and everything about
accepted and refused settings follows from there.
-/

namespace LoadDispatch.Settings

open Decimal (number?)
open Schema (Field Reading Report)
open Text (isBlank)

variable {sources : Sources} {s : Settings} {f : Field}

/-! ## Limits -/

/-- A limit that settings have to keep. -/
structure Limit where
  /-- It is kept. -/
  keeps : Settings → Prop
  /-- It is not kept, and this is not noticed. -/
  slips : Settings → Prop := fun _ => False
  /-- What is said of settings that do not keep it, if it is noticed. -/
  words : String

/-- What is said of the variable of a field. -/
def demand (f : Field) (what : String) : String :=
  "DISTRIBUTED_LOAD_" ++ Text.upper f.name ++ " " ++ what

/-- An address has a character that is no blank. -/
def endpointLimit (f : Field) (address : Settings → String) : Limit where
  keeps s := ∃ c ∈ (address s).toList, isBlank c = false
  words := demand f "cannot be empty."

/-- A count is at least one. -/
def countLimit (f : Field) (count : Settings → Int) : Limit where
  keeps s := 1 ≤ count s
  words := demand f "must be >= 1."

/-- The time to wait for a step of a request is a positive number. -/
def timeoutLimit : Limit where
  keeps s := ∃ v, number? s.requestTimeout = some v ∧ 0 < v
  slips s := number? s.requestTimeout = none
  words := demand requestTimeoutField "must be > 0."

/-- The time to wait between two passes is a number that is not negative. -/
def intervalLimit : Limit where
  keeps s := ∃ v, number? s.pollInterval = some v ∧ 0 ≤ v
  slips s := number? s.pollInterval = none
  words := demand pollIntervalField "must be >= 0."

/-- The limits, in their order. -/
def limits : List Limit :=
  [endpointLimit metadataEndpointField Settings.metadataEndpoint,
    endpointLimit jobServiceEndpointField Settings.jobServiceEndpoint,
    timeoutLimit,
    countLimit defaultReplicationField Settings.defaultReplication,
    countLimit maxActiveJobsField Settings.maxActiveJobs,
    countLimit maxSubmitAttemptsField Settings.maxSubmitAttempts,
    intervalLimit,
    countLimit statusCheckConcurrencyField Settings.statusCheckConcurrency]

/-- Settings get by a limit. -/
def Limit.Passes (l : Limit) (s : Settings) : Prop :=
  l.keeps s ∨ l.slips s

/-- A rule is broken exactly by settings that do not get by the limit, and says the same of them. -/
def Enforces (rule : SettingRule) (l : Limit) : Prop :=
  rule.words = l.words ∧ ∀ s, rule.broken s = true ↔ ¬ l.Passes s

theorem isBlankText_eq_false_iff {text : String} :
    isBlankText text = false ↔ ∃ c ∈ text.toList, isBlank c = false := by
  have hblank : isBlankText text = true ↔ ∀ c ∈ text.toList, isBlank c = true := by
    rw [isBlankText, beq_iff_eq, Text.trim, String.ofList_eq_empty_iff, Text.stripWhile_eq_nil_iff]
  rw [← Bool.not_eq_true, hblank]
  simp

section Enforced

variable {words : String}

theorem enforces_endpointLimit {address : Settings → String}
    (h : words = demand f "cannot be empty.") :
    Enforces ⟨fun s => isBlankText (address s), words⟩ (endpointLimit f address) := by
  refine ⟨h, fun s => ?_⟩
  change isBlankText (address s) = true ↔ ¬ ((∃ c ∈ (address s).toList, isBlank c = false) ∨ False)
  rw [or_false, ← isBlankText_eq_false_iff, Bool.not_eq_false]

theorem enforces_countLimit {count : Settings → Int} (h : words = demand f "must be >= 1.") :
    Enforces ⟨fun s => count s < 1, words⟩ (countLimit f count) :=
  ⟨h, fun s => by simp [Limit.Passes, countLimit]⟩

theorem enforces_timeoutLimit (h : words = timeoutLimit.words) :
    Enforces ⟨fun s => s.requestTimeout ≤ 0.0, words⟩ timeoutLimit := by
  refine ⟨h, fun s => ?_⟩
  rw [decide_eq_true_iff, Decimal.le_zero_iff]
  change _ ↔ ¬ ((∃ v, number? s.requestTimeout = some v ∧ 0 < v) ∨ number? s.requestTimeout = none)
  cases number? s.requestTimeout <;> simp

theorem enforces_intervalLimit (h : words = intervalLimit.words) :
    Enforces ⟨fun s => s.pollInterval < 0.0, words⟩ intervalLimit := by
  refine ⟨h, fun s => ?_⟩
  rw [decide_eq_true_iff, Decimal.lt_zero_iff]
  change _ ↔ ¬ ((∃ v, number? s.pollInterval = some v ∧ 0 ≤ v) ∨ number? s.pollInterval = none)
  cases number? s.pollInterval <;> simp

end Enforced

/-- Every limit has its rule. -/
theorem rules_enforce : List.Forall₂ Enforces rules limits :=
  .cons (enforces_endpointLimit (by decide +kernel)) <|
  .cons (enforces_endpointLimit (by decide +kernel)) <|
  .cons (enforces_timeoutLimit (by decide +kernel)) <|
  .cons (enforces_countLimit (by decide +kernel)) <|
  .cons (enforces_countLimit (by decide +kernel)) <|
  .cons (enforces_countLimit (by decide +kernel)) <|
  .cons (enforces_intervalLimit (by decide +kernel)) <|
  .cons (enforces_countLimit (by decide +kernel)) .nil

/-! ## What comes of settings -/

/-- A limit is the first one, in their order, that is not met. -/
def First (met : Limit → Prop) (limit : Limit) : Prop :=
  ∃ before after, limits = before ++ limit :: after ∧ (∀ l ∈ before, met l) ∧ ¬ met limit

/-- The answer to settings of which all fields parse, by the limits that count as met. -/
inductive Answers (met : Limit → Prop) (s : Settings) : Except Report Settings → Prop where
  /-- All limits are met, and the settings are accepted. -/
  | accepted (all : ∀ l ∈ limits, met l) :
      Answers met s (.ok { s with logLevel := Text.upper (Text.trim s.logLevel) })
  /-- The first limit that is not met is reported, and nothing else. -/
  | refused {limit : Limit} (first : First met limit) :
      Answers met s (.error { title, violations := [⟨[], .agreed limit.words⟩] })

/-- Rules find what is wrong with settings in the order of the limits. -/
theorem find?_broken {rs : List SettingRule} {ls : List Limit} (h : List.Forall₂ Enforces rs ls)
    (s : Settings) :
    (rs.find? (·.broken s) = none ∧ ∀ l ∈ ls, l.Passes s) ∨
      ∃ rule before limit after, rs.find? (·.broken s) = some rule ∧ rule.words = limit.words ∧
        ls = before ++ limit :: after ∧ (∀ l ∈ before, l.Passes s) ∧ ¬ limit.Passes s := by
  induction h with
  | nil => exact .inl ⟨rfl, List.forall_mem_nil _⟩
  | @cons rule limit rs ls henforces _ ih =>
      obtain ⟨hwords, hbroken⟩ := henforces
      cases hrule : rule.broken s with
      | true =>
          exact .inr ⟨rule, [], limit, ls, List.find?_cons_of_pos hrule, hwords, rfl,
            List.forall_mem_nil _, (hbroken s).mp hrule⟩
      | false =>
          have hfind : (rule :: rs).find? (·.broken s) = rs.find? (·.broken s) :=
            List.find?_cons_of_neg (by simp [hrule])
          have hpasses : limit.Passes s := by
            by_contra hnot
            rw [(hbroken s).mpr hnot] at hrule
            cases hrule
          rw [hfind]
          rcases ih with ⟨hnone, hall⟩ | ⟨first, before, l, after, hsome, hsame, rfl, hbefore, hl⟩
          · exact .inl ⟨hnone, List.forall_mem_cons.mpr ⟨hpasses, hall⟩⟩
          · exact .inr ⟨first, limit :: before, l, after, hsome, hsame, rfl,
              List.forall_mem_cons.mpr ⟨hpasses, hbefore⟩, hl⟩

/-- Settings of which all fields parse are judged by what the limits let through. -/
theorem answers_read (h : Parses sources s) :
    Answers (Limit.Passes · s) s (Settings.read sources) := by
  rw [Settings.read, readFields_eq_ok_iff.mpr h]
  dsimp only
  unfold checkRules
  rcases find?_broken rules_enforce s with
    ⟨hnone, hall⟩ | ⟨rule, before, limit, after, hsome, hwords, hlimits, hbefore, hnot⟩
  · rw [hnone]
    exact .accepted hall
  · rw [hsome]
    dsimp only
    rw [hwords]
    exact .refused ⟨before, after, hlimits, hbefore, hnot⟩

section First

variable {met : Limit → Prop} {limit limit' : Limit} {answer : Except Report Settings}

open Classical in
theorem first_iff : First met limit ↔ limits.find? (fun l => ¬ met l) = some limit := by
  rw [List.find?_eq_some_iff_append]
  simp only [First, decide_not, Bool.not_eq_true', decide_eq_false_iff_not, Bool.not_not,
    decide_eq_true_iff]
  exact ⟨fun ⟨before, after, h, hbefore, hnot⟩ => ⟨hnot, before, after, h, hbefore⟩,
    fun ⟨hnot, before, after, h, hbefore⟩ => ⟨before, after, h, hbefore, hnot⟩⟩

theorem First.unique (h : First met limit) (h' : First met limit') : limit = limit' :=
  Option.some.inj ((first_iff.mp h).symm.trans (first_iff.mp h'))

theorem First.mem (h : First met limit) : limit ∈ limits := by
  obtain ⟨before, after, hlimits, -, -⟩ := h
  rw [hlimits]
  simp

theorem exists_first (h : ¬ ∀ l ∈ limits, met l) : ∃ limit, First met limit := by
  classical
  by_contra hnone
  apply h
  have hfind : limits.find? (fun l => ¬ met l) = none := by
    rw [Option.eq_none_iff_forall_ne_some]
    exact fun limit hlimit => hnone ⟨limit, first_iff.mpr hlimit⟩
  simpa using hfind

/-- No two limits are reported in the same words. -/
theorem eq_of_words (h : limit ∈ limits) (h' : limit' ∈ limits) (heq : limit.words = limit'.words) :
    limit = limit' :=
  List.inj_on_of_nodup_map (f := Limit.words) (by decide +kernel) h h' heq

theorem First.not_all (h : First met limit) : ¬ ∀ l ∈ limits, met l := by
  intro hall
  have hmem := h.mem
  obtain ⟨-, -, -, -, hnot⟩ := h
  exact hnot (hall limit hmem)

theorem Answers.eq_ok (h : Answers met s answer) (hall : ∀ l ∈ limits, met l) :
    answer = .ok { s with logLevel := Text.upper (Text.trim s.logLevel) } := by
  cases h with
  | accepted => rfl
  | refused hfirst => exact absurd hall hfirst.not_all

theorem Answers.eq_error (h : Answers met s answer) (hfirst : First met limit) :
    answer = .error { title, violations := [⟨[], .agreed limit.words⟩] } := by
  cases h with
  | accepted hall => exact absurd hall hfirst.not_all
  | refused hfirst' => rw [hfirst.unique hfirst']

theorem Answers.of_ok {s' : Settings} (h : Answers met s (.ok s')) :
    s' = { s with logLevel := Text.upper (Text.trim s.logLevel) } ∧ ∀ l ∈ limits, met l := by
  cases h with
  | accepted hall => exact ⟨rfl, hall⟩

theorem Answers.of_error {report : Report} (h : Answers met s (.error report)) :
    ∃ limit, First met limit ∧ report = { title, violations := [⟨[], .agreed limit.words⟩] } := by
  cases h with
  | refused hfirst => exact ⟨_, hfirst, rfl⟩

/-- What limits let through makes no difference unless the first that is not kept does. -/
theorem Answers.keeps (h : Answers (Limit.Passes · s) s answer)
    (hslips : ∀ limit, First (Limit.keeps · s) limit → ¬ limit.slips s) :
    Answers (Limit.keeps · s) s answer := by
  -- The first limit that is not kept is then not passed either.
  have hpasses {limit : Limit} (hfirst : First (Limit.keeps · s) limit) :
      First (Limit.Passes · s) limit := by
    obtain ⟨before, after, hlimits, hbefore, hnot⟩ := hfirst
    refine ⟨before, after, hlimits, fun l hl => .inl (hbefore l hl), ?_⟩
    exact not_or.mpr ⟨hnot, hslips limit ⟨before, after, hlimits, hbefore, hnot⟩⟩
  cases h with
  | accepted hall =>
      refine .accepted ?_
      by_contra hnot
      obtain ⟨limit, hfirst⟩ := exists_first hnot
      obtain ⟨-, -, -, -, hfails⟩ := hpasses hfirst
      exact hfails (hall limit hfirst.mem)
  | @refused limit hrefused =>
      obtain ⟨limit', hfirst⟩ := exists_first fun hall : ∀ l ∈ limits, l.keeps s =>
        hrefused.not_all fun l hl => .inl (hall l hl)
      rw [hrefused.unique (hpasses hfirst)]
      exact .refused hfirst

end First

/-- Settings are accepted exactly if all fields parse and all limits are kept; the first limit that
is not kept is reported alone; and what is accepted has times that are numbers in their range. -/
structure KeepsLimits (sources : Sources) : Prop where
  /-- What is accepted. -/
  accepted_iff : (∃ s, Settings.read sources = .ok s) ↔
    ∃ s, Parses sources s ∧ ∀ l ∈ limits, l.keeps s
  /-- What is reported. -/
  refused : ∀ s limit, Parses sources s → First (Limit.keeps · s) limit →
    Settings.read sources = .error { title, violations := [⟨[], .agreed limit.words⟩] }
  /-- What may be relied on. -/
  numbers : ∀ s, Settings.read sources = .ok s → timeoutLimit.keeps s ∧ intervalLimit.keeps s

/-- The first limit that is not kept is one that lets the settings through. -/
def Slips (sources : Sources) : Prop :=
  ∃ s limit, Parses sources s ∧ First (Limit.keeps · s) limit ∧ limit.slips s

theorem exists_parses (h : Settings.read sources = .ok s) : ∃ s', Parses sources s' := by
  rw [Settings.read, Reading.titled_eq_ok_iff] at h
  split at h
  · next s' hfields => exact ⟨s', readFields_eq_ok_iff.mp hfields⟩
  · cases h

theorem keepsLimits_iff : KeepsLimits sources ↔ ¬ Slips sources := by
  constructor
  · rintro hkeeps ⟨s, limit, hparses, hfirst, hslips⟩
    have hread := hkeeps.refused s limit hparses hfirst
    have hanswer := answers_read hparses
    rw [hread] at hanswer
    obtain ⟨limit', hfirst', hreport⟩ := hanswer.of_error
    have hwords : limit.words = limit'.words := by simpa using hreport
    obtain rfl := eq_of_words hfirst.mem hfirst'.mem hwords
    obtain ⟨-, -, -, -, hnot⟩ := hfirst'
    exact hnot (.inr hslips)
  · intro hnot
    have hanswer {s : Settings} (h : Parses sources s) :
        Answers (Limit.keeps · s) s (Settings.read sources) :=
      (answers_read h).keeps fun limit hfirst hslips => hnot ⟨s, limit, h, hfirst, hslips⟩
    refine ⟨⟨?_, ?_⟩, ?_, ?_⟩
    · rintro ⟨s, hread⟩
      obtain ⟨s', hparses⟩ := exists_parses hread
      exact ⟨s', hparses, (hread ▸ hanswer hparses).of_ok.2⟩
    · rintro ⟨s, hparses, hall⟩
      exact ⟨_, (hanswer hparses).eq_ok hall⟩
    · intro s limit hparses hfirst
      exact (hanswer hparses).eq_error hfirst
    · intro s hread
      obtain ⟨s', hparses⟩ := exists_parses hread
      obtain ⟨rfl, hall⟩ := (hread ▸ hanswer hparses).of_ok
      exact ⟨hall timeoutLimit (by simp [limits]), hall intervalLimit (by simp [limits])⟩

/-- What a pool waits is a number, whatever it is asked to wait. -/
theorem number?_clampInterval (seconds : Float) :
    ∃ v, number? (PoolLimits.clampInterval seconds) = some v ∧ 0 ≤ v := by
  unfold PoolLimits.clampInterval
  split
  · next hpos =>
    obtain ⟨v, hv, hlt⟩ := Decimal.zero_lt_iff.mp hpos
    exact ⟨v, hv, hlt.le⟩
  · exact ⟨0, Decimal.number?_zero, le_rfl⟩

/-- **Limits hold unless a time is not a number.**  Whatever the sources are:

* the limits are kept exactly if the first one that is not kept is none of those that let through
  what is not a number;
* settings of which all fields parse are accepted if every limit lets them through, and otherwise
  the first that does not is reported alone;
* settings of which a field does not parse are refused, with violations of the fields;
* a time in accepted settings is in its range if it is a number, and what a pool waits is always a
  number that is not negative. -/
theorem limits_hold_unless_not_a_number (sources : Sources) :
    (KeepsLimits sources ↔ ¬ Slips sources) ∧
    (∀ s, Parses sources s → Answers (Limit.Passes · s) s (Settings.read sources)) ∧
    ((¬ ∃ s, Parses sources s) → ∃ violations, violations ≠ [] ∧
      Settings.read sources = .error { title, violations } ∧
      ∀ v ∈ violations, ∃ f ∈ fields, v.location = [.member f.name]) ∧
    ∀ s, Settings.read sources = .ok s →
      (∀ v, number? s.requestTimeout = some v → 0 < v) ∧
      (∀ v, number? s.pollInterval = some v → 0 ≤ v) ∧
      ∀ capacity submissions statusChecks pool,
        PoolLimits.ofRequest? capacity submissions s.pollInterval statusChecks = .ok pool →
          ∃ v, number? pool.pollInterval = some v ∧ 0 ≤ v := by
  refine ⟨keepsLimits_iff, fun s => answers_read, fun hnone => ?_, fun s hread => ?_⟩
  · cases hfields : readFields sources.members with
    | ok s => exact absurd ⟨s, readFields_eq_ok_iff.mp hfields⟩ hnone
    | error violations =>
        obtain ⟨hne, hplace⟩ := readFields_eq_error hfields
        refine ⟨violations, hne, ?_, hplace⟩
        rw [Settings.read, hfields]
        rfl
  · obtain ⟨s', hparses⟩ := exists_parses hread
    obtain ⟨rfl, hall⟩ := (hread ▸ answers_read hparses).of_ok
    have htimeout : timeoutLimit.Passes s' := hall timeoutLimit (by simp [limits])
    have hinterval : intervalLimit.Passes s' := hall intervalLimit (by simp [limits])
    refine ⟨fun v hv => ?_, fun v hv => ?_, fun capacity submissions statusChecks pool hpool => ?_⟩
    · rcases htimeout with ⟨v', hv', hpos⟩ | hnone
      · exact Option.some.inj (hv'.symm.trans hv) ▸ hpos
      · exact absurd (hnone.symm.trans hv) (Option.some_ne_none v).symm
    · rcases hinterval with ⟨v', hv', hnonneg⟩ | hnone
      · exact Option.some.inj (hv'.symm.trans hv) ▸ hnonneg
      · exact absurd (hnone.symm.trans hv) (Option.some_ne_none v).symm
    · rw [(PoolLimits.ofRequest?_eq_ok hpool).2.2.1]
      exact number?_clampInterval _

/-- Sources with a time to wait that is not a number. -/
def nanTimeout : Sources where
  environment := [("DISTRIBUTED_LOAD_REQUEST_TIMEOUT_SECONDS", "nan")]

/-- A time to wait for a step of a request that is not a number is let through. -/
theorem nan_timeout_is_accepted :
    (∃ s, Settings.read nanTimeout = .ok s ∧ number? s.requestTimeout = none) ∧
      ¬ KeepsLimits nanTimeout := by
  have hdecode : (match Settings.read nanTimeout with
      | .ok s => (Decimal.decode s.requestTimeout).2 == .notANumber
      | .error _ => false) = true := by
    decide +kernel
  obtain ⟨s, hread, hnone⟩ : ∃ s, Settings.read nanTimeout = .ok s ∧
      number? s.requestTimeout = none := by
    cases hread : Settings.read nanTimeout with
    | error report =>
        rw [hread] at hdecode
        cases hdecode
    | ok s =>
        rw [hread] at hdecode
        refine ⟨s, rfl, ?_⟩
        rw [number?, eq_of_beq hdecode]
        rfl
  refine ⟨⟨s, hread, hnone⟩, fun hkeeps => ?_⟩
  obtain ⟨v, hv, -⟩ := (hkeeps.numbers s hread).1
  exact absurd (hnone.symm.trans hv) (Option.some_ne_none v).symm

end LoadDispatch.Settings
