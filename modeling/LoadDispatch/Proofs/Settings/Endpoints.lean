import LoadDispatch.Proofs.Command.Validated
import LoadDispatch.Proofs.Http.Address
import LoadDispatch.Proofs.Settings.Limits

/-!
# Accepted addresses that no client takes

Two things are said of the addresses in settings: they are not blank when the settings are accepted,
and something is left of their bases when a client is opened.  The second asks for more, since the
slashes at the end of an address go as well.  What lies between is an address of nothing but slashes
(`OnlySlashes`): it is accepted with the settings, and refused by every client
(`endpoints_open_unless_only_slashes`).
-/

namespace LoadDispatch.Settings

open Http (Transport NoAddress endpoint jobService)
open Text (isBlank)

/-- A text has slashes, at least one of them, and nothing else between blanks. -/
def OnlySlashes (text : String) : Prop :=
  ∃ front n back, text.toList = front ++ List.replicate (n + 1) '/' ++ back ∧
    (∀ c ∈ front, isBlank c = true) ∧ ∀ c ∈ back, isBlank c = true

/-! ## Two guards over all texts -/

section Guards

variable {text name : String} {kind : FaultKind}

/-- A text that is not blank and yet no address has only slashes. -/
theorem onlySlashes_iff : OnlySlashes text ↔ isBlankText text = false ∧ NoAddress text := by
  rw [isBlankText_eq_false_iff]
  constructor
  · rintro ⟨front, n, back, htext, hfront, hback⟩
    refine ⟨⟨'/', ?_, by decide⟩, front, n + 1, back, htext, hfront, hback⟩
    rw [htext]
    simp
  · rintro ⟨⟨c, hc, hcblank⟩, front, n, back, htext, hfront, hback⟩
    cases n with
    | zero =>
        -- Without slashes there are blanks only.
        rw [htext, List.replicate_zero, List.append_nil] at hc
        rw [(List.mem_append.mp hc).elim (hfront c) (hback c)] at hcblank
        cases hcblank
    | succ n => exact ⟨front, n, back, htext, hfront, hback⟩

theorem endpoint_of_noAddress (h : NoAddress text) (kind : FaultKind) (name : String) :
    endpoint text kind name = .error (.emptyEndpoint name kind) :=
  Http.endpoint_eq_error_iff.mpr ⟨rfl, Http.baseChars_eq_nil_iff.mpr h⟩

theorem exists_endpoint_iff : (∃ base, endpoint text kind name = .ok base) ↔ ¬ NoAddress text := by
  constructor
  · rintro ⟨base, hok⟩ hnone
    rw [endpoint_of_noAddress hnone] at hok
    cases hok
  · intro hnot
    cases hread : endpoint text kind name with
    | ok base => exact ⟨base, rfl⟩
    | error fault =>
        obtain ⟨-, hnil⟩ := Http.endpoint_eq_error_iff.mp hread
        exact absurd (Http.baseChars_eq_nil_iff.mp hnil) hnot

/-- A text that is not blank is an address unless it has only slashes. -/
theorem exists_endpoint_iff_of_not_blank (h : isBlankText text = false) :
    (∃ base, endpoint text kind name = .ok base) ↔ ¬ OnlySlashes text := by
  rw [exists_endpoint_iff, onlySlashes_iff]
  exact not_congr ⟨fun hnone => ⟨h, hnone⟩, And.right⟩

/-- A blank text is no address. -/
theorem not_blank_of_endpoint {base : String} (h : endpoint text kind name = .ok base) :
    isBlankText text = false := by
  rw [isBlankText_eq_false_iff]
  by_contra hnone
  refine exists_endpoint_iff.mp ⟨base, h⟩ ⟨text.toList, 0, [], by simp, ?_, List.forall_mem_nil _⟩
  intro c hc
  by_contra hblank
  exact hnone ⟨c, hc, Bool.eq_false_iff.mpr hblank⟩

end Guards

/-! ## Opening clients -/

section Clients

variable {σ : Type} (transport : Transport (StateM σ)) (world : σ) (s : Settings)

/-- The client of the storage system for some settings is opened. -/
def openMetadata : Except Fault Http.MetadataClient × σ :=
  Http.MetadataClient.open? transport s.metadataEndpoint (some s.requestTimeout) world

/-- A session of the job service for some settings is opened. -/
def openSession : Except Fault Session × σ :=
  (jobService transport s.jobServiceEndpoint (some s.requestTimeout)).connect world

/-- Both are opened without a fault. -/
structure Opens : Prop where
  /-- The client waits as long as the settings say. -/
  metadata : ∃ client, (openMetadata transport world s).1 = .ok client ∧
    client.timeout = some s.requestTimeout
  /-- The session. -/
  session : ∃ session, (openSession transport world s).1 = .ok session

variable {s}

theorem openMetadata_of_ok {base : String}
    (h : endpoint s.metadataEndpoint .metadata "Metadata" = .ok base) :
    openMetadata transport world s =
      (.ok ⟨⟨base, some s.requestTimeout, (transport.connect world).1⟩⟩,
        (transport.connect world).2) := by
  unfold openMetadata Http.MetadataClient.open? Http.Client.open?
  rw [h]
  rfl

theorem openMetadata_of_error {fault : Fault}
    (h : endpoint s.metadataEndpoint .metadata "Metadata" = .error fault) :
    openMetadata transport world s = (.error fault, world) := by
  unfold openMetadata Http.MetadataClient.open? Http.Client.open?
  rw [h]
  rfl

theorem openSession_of_ok {base : String}
    (h : endpoint s.jobServiceEndpoint .jobService "Job service" = .ok base) :
    openSession transport world s =
      (.ok ⟨(transport.connect world).1⟩, (transport.connect world).2) := by
  unfold openSession jobService Http.JobClient.open? Http.Client.open?
  rw [h]
  rfl

theorem openSession_of_error {fault : Fault}
    (h : endpoint s.jobServiceEndpoint .jobService "Job service" = .error fault) :
    openSession transport world s = (.error fault, world) := by
  unfold openSession jobService
  rw [h]
  rfl

end Clients

/-- Accepted settings have no blank address. -/
theorem not_blank_of_read {sources : Sources} {s : Settings}
    (h : Settings.read sources = .ok s) :
    isBlankText s.metadataEndpoint = false ∧ isBlankText s.jobServiceEndpoint = false := by
  have hkept := rules_kept h
  simp only [rules, List.mem_cons, forall_eq_or_imp] at hkept
  exact ⟨hkept.1, hkept.2.1⟩

section Accepted

variable {σ : Type} {transport : Transport (StateM σ)} {world : σ} {s : Settings}

theorem opens_metadata_iff (h : isBlankText s.metadataEndpoint = false) :
    (∃ client, (openMetadata transport world s).1 = .ok client ∧
      client.timeout = some s.requestTimeout) ↔ ¬ OnlySlashes s.metadataEndpoint := by
  rw [← exists_endpoint_iff_of_not_blank h]
  cases hbase : endpoint s.metadataEndpoint .metadata "Metadata" with
  | ok base => simp [openMetadata_of_ok transport world hbase]
  | error fault => simp [openMetadata_of_error transport world hbase]

theorem opens_session_iff (h : isBlankText s.jobServiceEndpoint = false) :
    (∃ session, (openSession transport world s).1 = .ok session) ↔
      ¬ OnlySlashes s.jobServiceEndpoint := by
  rw [← exists_endpoint_iff_of_not_blank h]
  cases hbase : endpoint s.jobServiceEndpoint .jobService "Job service" with
  | ok base => simp [openSession_of_ok transport world hbase]
  | error fault => simp [openSession_of_error transport world hbase]

end Accepted

/-- **Endpoints open unless they are only slashes.**  Of all texts, those that are not blank are
addresses unless they have only slashes, and those that are blank are none.  So whatever sources the
accepted settings are from, over whatever connections:

* both clients are opened exactly if neither address has only slashes;
* a client whose address has only slashes is refused for an empty address, before anything is
  connected. -/
theorem endpoints_open_unless_only_slashes (sources : Sources) (text name : String)
    (kind : FaultKind) :
    ((isBlankText text = false → ∃ base, endpoint text kind name = .ok base) ↔
      ¬ OnlySlashes text) ∧
    (∀ base, endpoint text kind name = .ok base → isBlankText text = false) ∧
    ∀ s, Settings.read sources = .ok s →
      ∀ (σ : Type) (transport : Transport (StateM σ)) (world : σ),
        (Opens transport world s ↔
          ¬ OnlySlashes s.metadataEndpoint ∧ ¬ OnlySlashes s.jobServiceEndpoint) ∧
        (OnlySlashes s.metadataEndpoint →
          openMetadata transport world s = (.error (.emptyEndpoint "Metadata" .metadata), world)) ∧
        (OnlySlashes s.jobServiceEndpoint → openSession transport world s =
          (.error (.emptyEndpoint "Job service" .jobService), world)) := by
  refine ⟨⟨?_, ?_⟩, fun base => not_blank_of_endpoint, ?_⟩
  · intro hguard honly
    obtain ⟨hblank, hnone⟩ := onlySlashes_iff.mp honly
    exact exists_endpoint_iff.mp (hguard hblank) hnone
  · exact fun hnot hblank => (exists_endpoint_iff_of_not_blank hblank).mpr hnot
  · intro s hread σ transport world
    obtain ⟨hmetadata, hjobs⟩ := not_blank_of_read hread
    refine ⟨⟨fun h => ?_, fun h => ?_⟩, fun h => ?_, fun h => ?_⟩
    · exact ⟨(opens_metadata_iff hmetadata).mp h.metadata, (opens_session_iff hjobs).mp h.session⟩
    · exact ⟨(opens_metadata_iff hmetadata).mpr h.1, (opens_session_iff hjobs).mpr h.2⟩
    · exact openMetadata_of_error _ _ (endpoint_of_noAddress (onlySlashes_iff.mp h).2 _ _)
    · exact openSession_of_error _ _ (endpoint_of_noAddress (onlySlashes_iff.mp h).2 _ _)

/-- Sources with a slash for the address of the storage system. -/
def slashAddress : Sources where
  environment := [("DISTRIBUTED_LOAD_METADATA_ENDPOINT", "/")]

/-- A slash is accepted for an address, and then no client is opened there. -/
theorem slash_is_accepted_and_not_opened :
    isBlankText "/" = false ∧
    endpoint "/" .metadata "Metadata" = .error (.emptyEndpoint "Metadata" .metadata) ∧
    ∃ s, Settings.read slashAddress = .ok s ∧
      ∀ (σ : Type) (transport : Transport (StateM σ)) (world : σ), ¬ Opens transport world s := by
  have hrefused : endpoint "/" .metadata "Metadata" =
      .error (.emptyEndpoint "Metadata" .metadata) := by decide
  have haddress : (match Settings.read slashAddress with
      | .ok s => s.metadataEndpoint == "/"
      | .error _ => false) = true := by
    decide +kernel
  refine ⟨by decide, hrefused, ?_⟩
  cases hread : Settings.read slashAddress with
  | error report =>
      rw [hread] at haddress
      cases haddress
  | ok s =>
      rw [hread] at haddress
      refine ⟨s, rfl, fun σ transport world hopens => ?_⟩
      obtain ⟨client, hclient, -⟩ := hopens.metadata
      rw [openMetadata_of_error transport world (eq_of_beq haddress ▸ hrefused)] at hclient
      cases hclient

end LoadDispatch.Settings
