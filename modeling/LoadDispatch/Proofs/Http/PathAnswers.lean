import LoadDispatch.Proofs.Http.Reception
import LoadDispatch.Proofs.Schema.Projection
import Mathlib.Data.List.Forall2

/-!
# What the answers about a path mean

The storage system is asked for the metadata of a path and for the listing of a folder.  Both
questions are sorted by the outcomes of their requests (`path_answers_are_sorted`), and in the same
way: the code of a failure tells a path that is absent from one that is denied, and whatever else is
no value is a fault of the metadata.  What fits is the same for both, too, since a listing fits item
by item (`readList_eq_ok_iff`): no child is dropped, moved or made up, and one that does not fit
takes the listing with it.

An unreadable response escapes, and it does so before its code is looked at
(`deep_answer_is_no_path_fault`).
-/

namespace LoadDispatch

namespace Schema

section Items

variable {α : Type} {read : Json → Reading α} {index : Nat} {item : Json} {items : List Json}
  {as : List α}

theorem readItems_cons_eq_ok_iff :
    readItems read index (item :: items) = .ok as ↔
      ∃ a rest, read item = .ok a ∧ readItems read (index + 1) items = .ok rest ∧
        as = a :: rest := by
  rw [readItems]
  constructor
  · intro h
    split at h
    · next a rest hpair =>
      cases h
      obtain ⟨hitem, hitems⟩ := Reading.pair_eq_ok_iff.mp hpair
      exact ⟨a, rest, Reading.under_eq_ok_iff.mp hitem, hitems, rfl⟩
    · cases h
  · rintro ⟨a, rest, hitem, hitems, rfl⟩
    rw [Reading.pair_eq_ok_iff.mpr ⟨Reading.under_eq_ok_iff.mpr hitem, hitems⟩]

/-- Items are read one by one, and either each gives its value or none does. -/
theorem readItems_eq_ok_iff :
    readItems read index items = .ok as ↔
      List.Forall₂ (fun item a => read item = .ok a) items as := by
  induction items generalizing index as with
  | nil =>
      rw [readItems, List.forall₂_nil_left_iff, Except.ok.injEq]
      exact eq_comm
  | cons item items ih =>
      simp only [readItems_cons_eq_ok_iff, List.forall₂_cons_left_iff, ih]

end Items

namespace FileStatusPayload

variable {j : Json} {status : FileStatus} {statuses : List FileStatus}

theorem read_eq_ok_iff : read j = .ok status ↔ readObject readMembers j = .ok status :=
  Reading.titled_eq_ok_iff

/-- A listing is an array whose items are statuses, each on its own. -/
theorem readList_eq_ok_iff :
    readList j = .ok statuses ↔
      ∃ items, j = .arr items ∧
        List.Forall₂ (fun item status => read item = .ok status) items statuses := by
  rw [readList, Reading.titled_eq_ok_iff]
  simp only [read_eq_ok_iff]
  cases j with
  | arr items => simp [readArray, readItems_eq_ok_iff]
  | _ => simp [readArray]

/-- The share in the cache is a percentage, and a length is not negative. -/
theorem ranges_of_read (h : read j = .ok status) :
    0 ≤ status.residency ∧ status.residency ≤ 100 ∧ 0 ≤ status.length := by
  obtain ⟨members, -, hmembers⟩ := readObject_eq_ok_iff.mp (read_eq_ok_iff.mp h)
  obtain ⟨-, -, hresidency, hlength⟩ := readMembers_eq_ok_iff.mp hmembers
  have hshare : 0 ≤ status.residency ∧ status.residency ≤ 100 := by
    rcases Field.optional_eq_ok_iff.mp hresidency with ⟨_, value, -, hread⟩ | ⟨-, hdefault⟩
    · rw [Function.comp, Reading.ofScalar_eq_ok_iff, atLeast_eq_ok_iff, atMost_eq_ok_iff] at hread
      exact ⟨hread.2, hread.1.2⟩
    · omega
  have hpositive : 0 ≤ status.length := by
    rcases Field.optional_eq_ok_iff.mp hlength with ⟨_, value, -, hread⟩ | ⟨-, hdefault⟩
    · rw [Function.comp, Reading.ofScalar_eq_ok_iff, atLeast_eq_ok_iff] at hread
      exact hread.2
    · omega
  exact ⟨hshare.1, hshare.2, hpositive⟩

end FileStatusPayload

end Schema

namespace Http

open Schema

/-! ## Outcomes -/

section Outcomes

variable {α : Type} (fits : Json → α → Prop) (outcome : Except Fault (Request × Response))

/-- The response tells of a failure of the given code, and it can be made out. -/
def FailsWith (code : Nat) : Prop :=
  ∃ r, received outcome = some r ∧ r.code = code ∧ ∀ fault, ¬ r.Unreadable fault

/-- The response is JSON that fits as a value. -/
def GivesValue (a : α) : Prop :=
  ∃ r body, received outcome = some r ∧ r.Yields body ∧ fits body a

/-- A question about a path has neither a value nor a failure with a code of its own. -/
inductive LacksValue : Prop where
  /-- There is no response. -/
  | unanswered (unanswered : received outcome = none)
  /-- The response tells of a failure of some other code. -/
  | failed {code : Nat} (fails : FailsWith outcome code) (failed : ¬ (200 ≤ code ∧ code < 300))
      (other : code ∉ [401, 403, 404])
  /-- The response is successful, and its body is no JSON. -/
  | malformed {r : Response} (received : received outcome = some r)
      (success : 200 ≤ r.code ∧ r.code < 300) (json : r.json? r.room.success = .ok none)
  /-- The response is JSON that fits as no value. -/
  | unfit {r : Response} {body : Json} (received : received outcome = some r)
      (yields : r.Yields body) (unfit : ∀ a, ¬ fits body a)

/-- How a question about a path ends. -/
def pathPartition : Partition α where
  answered := GivesValue fits outcome
  reported
    | .pathNotFound => FailsWith outcome 404
    | .permission => FailsWith outcome 401 ∨ FailsWith outcome 403
    | .metadata => LacksValue fits outcome
    | _ => False
  escaped := Unread outcome

end Outcomes

/-- JSON that is the status of a file. -/
def IsStatus (body : Json) (status : FileStatus) : Prop :=
  FileStatusPayload.read body = .ok status

/-- JSON that is a listing: an array of statuses, in their order. -/
def IsListing (body : Json) (statuses : List FileStatus) : Prop :=
  ∃ items, body = .arr items ∧ List.Forall₂ IsStatus items statuses

/-- Every item of a listing is a status. -/
theorem exists_isStatus {items : List Json} {item : Json} {statuses : List FileStatus}
    (h : List.Forall₂ IsStatus items statuses) (hitem : item ∈ items) :
    ∃ status, IsStatus item status := by
  induction h with
  | nil => cases hitem
  | cons hfirst _ ih =>
      cases hitem with
      | head => exact ⟨_, hfirst⟩
      | tail _ hrest => exact ih hrest

/-! ## JSON in responses -/

section Reading

variable {α : Type} {target path : String} {request : Request} {r : Response} {body : Json}
  {fault : Fault}

theorem interpretPath_of_yields (h : r.Yields body) :
    interpretPath target path request r = .ok body := by
  rw [interpretPath, if_pos (Response.isSuccess_iff.mpr h.success), h.json]

theorem interpretPath_of_failed {detail : String} (hfailed : r.isSuccess = false)
    (hdetail : r.detail = .ok detail) :
    interpretPath target path request r = .error
      (if r.code = 404 then .pathAbsent path detail
      else if r.code = 401 ∨ r.code = 403 then .pathDenied path detail
      else .pathResponse request.line r.code detail) := by
  rw [interpretPath, hfailed, if_neg Bool.false_ne_true, pathFailure, hdetail]

theorem interpretPath_of_unreadable (h : r.Unreadable fault) :
    interpretPath target path request r = .error fault := by
  obtain ⟨hsuccess, hjson⟩ | ⟨hfailed, hdetail⟩ := h.missed
  · rw [interpretPath, if_pos hsuccess, hjson]
  · rw [interpretPath, hfailed, if_neg Bool.false_ne_true, pathFailure, hdetail]

/-- A failure that can be made out has a reason. -/
theorem exists_detail (hcode : ¬ (200 ≤ r.code ∧ r.code < 300))
    (h : ∀ fault, ¬ r.Unreadable fault) :
    r.isSuccess = false ∧ ∃ detail, r.detail = .ok detail := by
  obtain ⟨body, hyields⟩ | ⟨fault, hunreadable⟩ | ⟨hsuccess, -⟩ | hfailed := r.cases
  · exact absurd hyields.success hcode
  · exact absurd hunreadable (h fault)
  · exact absurd (Response.isSuccess_iff.mp hsuccess) hcode
  · exact hfailed

end Reading

/-! ## Both questions -/

section Sorting

variable {α : Type} {fits : Json → α → Prop} {target path : String}
  {interpret : Request → Response → Except Fault α} {outcome : Except Fault (Request × Response)}

/-- A question takes the JSON of a response by whether it fits, and hands faults on. -/
structure TakesBy (fits : Json → α → Prop) (target path : String)
    (interpret : Request → Response → Except Fault α) : Prop where
  /-- A response without JSON has no other meaning. -/
  fault : ∀ {request r fault}, interpretPath target path request r = .error fault →
    interpret request r = .error fault
  /-- JSON that fits is taken. -/
  value : ∀ {request r body a}, interpretPath target path request r = .ok body → fits body a →
    interpret request r = .ok a
  /-- JSON that does not fit is a fault of the metadata. -/
  unfit : ∀ {request r body}, interpretPath target path request r = .ok body →
    (∀ a, ¬ fits body a) → ∃ fault, interpret request r = .error fault ∧ fault.kind = .metadata

/-- A failure that can be made out is told by its code. -/
theorem TakesBy.of_failsWith (h : TakesBy fits target path interpret) {code : Nat}
    (hcode : ¬ (200 ≤ code ∧ code < 300)) (hfails : FailsWith outcome code) :
    ∃ fault, Inquiry.read (.pathRequest target path) interpret outcome = .error fault ∧
      fault.kind = if code = 404 then .pathNotFound
        else if code = 401 ∨ code = 403 then .permission else .metadata := by
  obtain ⟨r, hreceived, rfl, hreadable⟩ := hfails
  obtain ⟨request, rfl⟩ := received_eq_some_iff.mp hreceived
  obtain ⟨hfailed, detail, hdetail⟩ := exists_detail hcode hreadable
  refine ⟨_, h.fault (interpretPath_of_failed hfailed hdetail), ?_⟩
  split
  · rfl
  · split <;> rfl

/-- Every outcome leads to one of the ends. -/
theorem pathPartition_total (fits : Json → α → Prop) (outcome : Except Fault (Request × Response)) :
    (∃ a, (pathPartition fits outcome).answered a) ∨
      (∃ kind, (pathPartition fits outcome).reported kind) ∨
      ∃ fault, (pathPartition fits outcome).escaped fault := by
  rcases outcome with fault | ⟨request, r⟩
  · exact .inr (.inl ⟨.metadata, .unanswered rfl⟩)
  obtain ⟨body, hyields⟩ | ⟨fault, hunreadable⟩ | ⟨hsuccess, hjson⟩ | ⟨hfailed, detail, hdetail⟩ :=
    r.cases
  · by_cases hfits : ∃ a, fits body a
    · obtain ⟨a, hfits⟩ := hfits
      exact .inl ⟨a, r, body, rfl, hyields, hfits⟩
    · exact .inr (.inl ⟨.metadata, .unfit rfl hyields (not_exists.mp hfits)⟩)
  · exact .inr (.inr ⟨fault, r, rfl, hunreadable⟩)
  · exact .inr (.inl ⟨.metadata, .malformed rfl (Response.isSuccess_iff.mp hsuccess) hjson⟩)
  · have hfails : FailsWith (.ok (request, r)) r.code := by
      refine ⟨r, rfl, rfl, fun fault hunreadable => ?_⟩
      rw [(Response.detail_eq_error_iff hfailed).mpr hunreadable] at hdetail
      cases hdetail
    have hcode : ¬ (200 ≤ r.code ∧ r.code < 300) := by
      rw [← Response.isSuccess_iff, hfailed]
      exact Bool.false_ne_true
    by_cases hother : r.code ∈ [401, 403, 404]
    · simp only [List.mem_cons, List.not_mem_nil, or_false] at hother
      rcases hother with hcode | hcode | hcode <;> rw [hcode] at hfails
      · exact .inr (.inl ⟨.permission, .inl hfails⟩)
      · exact .inr (.inl ⟨.permission, .inr hfails⟩)
      · exact .inr (.inl ⟨.pathNotFound, hfails⟩)
    · exact .inr (.inl ⟨.metadata, .failed hfails hcode hother⟩)

/-- What lacks a value is a fault of the metadata. -/
theorem TakesBy.of_lacksValue (h : TakesBy fits target path interpret)
    (hconcluded : Concluded outcome) (hlacks : LacksValue fits outcome) :
    ∃ fault, Inquiry.read (.pathRequest target path) interpret outcome = .error fault ∧
      fault.kind = .metadata := by
  cases hlacks with
  | unanswered hnone =>
      rcases outcome with fault | ⟨request, r⟩
      · exact ⟨_, Inquiry.read_of_failed (hconcluded fault rfl), rfl⟩
      · cases hnone
  | failed hfails hfailed hother =>
      obtain ⟨fault, hfault, hkind⟩ := h.of_failsWith hfailed hfails
      simp only [List.mem_cons, List.not_mem_nil, or_false, not_or] at hother
      rw [if_neg hother.2.2, if_neg (not_or.mpr ⟨hother.1, hother.2.1⟩)] at hkind
      exact ⟨fault, hfault, hkind⟩
  | malformed hreceived hsuccess hjson =>
      obtain ⟨request, rfl⟩ := received_eq_some_iff.mp hreceived
      refine ⟨.pathBody target path, h.fault ?_, rfl⟩
      rw [interpretPath, if_pos (Response.isSuccess_iff.mpr hsuccess), hjson]
  | unfit hreceived hyields hunfit =>
      obtain ⟨request, rfl⟩ := received_eq_some_iff.mp hreceived
      exact h.unfit (interpretPath_of_yields hyields) hunfit

/-- A question about a path ends as its outcome says. -/
theorem TakesBy.sorted (h : TakesBy fits target path interpret) (hconcluded : Concluded outcome) :
    (pathPartition fits outcome).Sorts
      (Inquiry.read (.pathRequest target path) interpret outcome) := by
  refine Partition.sorts_of_total ?_ ?_ ?_ (pathPartition_total fits outcome)
  · rintro a ⟨r, body, hreceived, hyields, hfits⟩
    obtain ⟨request, rfl⟩ := received_eq_some_iff.mp hreceived
    exact h.value (interpretPath_of_yields hyields) hfits
  · intro kind hkind
    cases kind with
    | pathNotFound => exact ⟨rfl, h.of_failsWith (by omega) hkind⟩
    | permission =>
        refine ⟨rfl, ?_⟩
        rcases hkind with hkind | hkind <;> exact h.of_failsWith (by omega) hkind
    | metadata => exact ⟨rfl, h.of_lacksValue hconcluded hkind⟩
    | _ => exact hkind.elim
  · rintro fault ⟨r, hreceived, hunreadable⟩
    obtain ⟨request, rfl⟩ := received_eq_some_iff.mp hreceived
    exact ⟨h.fault (interpretPath_of_unreadable hunreadable), hunreadable.isReported_eq_false⟩

end Sorting

theorem takesBy_isStatus {target path : String} :
    TakesBy IsStatus target path (interpretStat target path) where
  fault h := by rw [interpretStat, h]
  value hbody hfits := by
    rw [interpretStat, hbody]
    dsimp only
    rw [hfits]
  unfit {request r body} hbody hunfit := by
    cases hread : FileStatusPayload.read body with
    | ok status => exact absurd hread (hunfit status)
    | error report =>
        refine ⟨.pathStatus path report, ?_, rfl⟩
        rw [interpretStat, hbody]
        dsimp only
        rw [hread]

theorem takesBy_isListing {target path : String} :
    TakesBy IsListing target path (interpretListing target path) where
  fault h := by rw [interpretListing, h]
  value hbody hfits := by
    rw [interpretListing, hbody]
    dsimp only
    rw [FileStatusPayload.readList_eq_ok_iff.mpr hfits]
  unfit {request r body} hbody hunfit := by
    cases hread : FileStatusPayload.readList body with
    | ok statuses => exact absurd (FileStatusPayload.readList_eq_ok_iff.mp hread) (hunfit statuses)
    | error report =>
        refine ⟨.pathListing path report, ?_, rfl⟩
        rw [interpretListing, hbody]
        dsimp only
        rw [hread]

/-- What a client makes of the outcome of a question for metadata. -/
def MetadataClient.statAnswer (c : MetadataClient) (path : String)
    (outcome : Except Fault (Request × Response)) : Except Fault FileStatus :=
  Inquiry.read (.pathRequest c.statTarget path) (interpretStat c.statTarget path) outcome

/-- What a client makes of the outcome of a question for a listing. -/
def MetadataClient.listAnswer (c : MetadataClient) (path : String)
    (outcome : Except Fault (Request × Response)) : Except Fault (List FileStatus) :=
  Inquiry.read (.pathRequest c.listTarget path) (interpretListing c.listTarget path) outcome

section Client

variable {m : Type → Type} [Monad m] [LawfulMonad m] (transport : Transport m)

theorem MetadataClient.stat_exchange (c : MetadataClient) (path : String) :
    c.stat transport path = (do
      let outcome ← c.exchange transport "GET" c.statTarget (some (pathParameter path)) none
      pure (c.statAnswer path outcome)) :=
  (c.stat_eq transport path).trans
    (Inquiry.ask_of_exchange transport c.toClient _ _ _ _ (c.statAnswer path)).symm

theorem MetadataClient.list_exchange (c : MetadataClient) (path : String) :
    c.list transport path = (do
      let outcome ← c.exchange transport "GET" c.listTarget (some (pathParameter path)) none
      pure (c.listAnswer path outcome)) :=
  (c.list_eq transport path).trans
    (Inquiry.ask_of_exchange transport c.toClient _ _ _ _ (c.listAnswer path)).symm

/-- **The answers about a path are sorted by the outcomes of the requests.**  Both questions make
their answer of the outcome alone; what is made of one that has concluded is given by the partition
for what fits.  A status that is returned is in range, and a listing is whole: an item that is no
status leaves nothing of it. -/
theorem path_answers_are_sorted (c : MetadataClient) (path : String) :
    c.stat transport path = (do
      let outcome ← c.exchange transport "GET" c.statTarget
        (some (MetadataClient.pathParameter path)) none
      pure (c.statAnswer path outcome)) ∧
    c.list transport path = (do
      let outcome ← c.exchange transport "GET" c.listTarget
        (some (MetadataClient.pathParameter path)) none
      pure (c.listAnswer path outcome)) ∧
    ∀ outcome, Concluded outcome →
      (pathPartition IsStatus outcome).Sorts (c.statAnswer path outcome) ∧
      (pathPartition IsListing outcome).Sorts (c.listAnswer path outcome) ∧
      (∀ status, c.statAnswer path outcome = .ok status →
        0 ≤ status.residency ∧ status.residency ≤ 100 ∧ 0 ≤ status.length) ∧
      ∀ r items item, received outcome = some r → r.Yields (.arr items) → item ∈ items →
        (∀ status, ¬ IsStatus item status) →
          ∃ fault, c.listAnswer path outcome = .error fault ∧ fault.kind = .metadata := by
  refine ⟨c.stat_exchange transport path, c.list_exchange transport path,
    fun outcome hconcluded => ?_⟩
  have hstat : (pathPartition IsStatus outcome).Sorts (c.statAnswer path outcome) :=
    takesBy_isStatus.sorted hconcluded
  have hlist : (pathPartition IsListing outcome).Sorts (c.listAnswer path outcome) :=
    takesBy_isListing.sorted hconcluded
  refine ⟨hstat, hlist, fun status hstatus => ?_,
    fun r items item hreceived hyields hitem hbad => ?_⟩
  · obtain ⟨_, _, -, -, hfits⟩ := (hstat.answered_iff status).mp hstatus
    exact FileStatusPayload.ranges_of_read hfits
  · have hunfit : ∀ statuses, ¬ IsListing (.arr items) statuses := by
      rintro statuses ⟨_, ⟨⟩, hall⟩
      obtain ⟨status, hstatus⟩ := exists_isStatus hall hitem
      exact hbad status hstatus
    exact (hlist.reported_iff .metadata rfl).mpr (.unfit hreceived hyields hunfit)

end Client

/-- A client of the storage system, for the two theorems below. -/
def someStorage : MetadataClient :=
  ⟨{ base := "http://files.test", timeout := some 10.0, number := 1 }⟩

/-- What becomes of its question at the target, if every request gets the same response. -/
def pathOutcomeOf (target : String) (r : Response) : Except Fault (Request × Response) :=
  (someStorage.exchange (.always (.ok r)) "GET" target
    (some (MetadataClient.pathParameter "/d")) none).run

/-- Two children, the first with a spelled length and a foreign member, the second a folder. -/
def twoChildren : Response where
  code := 200
  body := Text.utf8Bytes
    ("[\x7b\"path\": \"/d/b\", \"length\": \"12\", \"owner\": []\x7d, " ++
      "\x7b\"path\": \"/d/a\", \"folder\": \"yes\"\x7d]")
  room := { success := 3, failure := 0 }

/-- The children are listed in their order. -/
theorem path_answers_are_sorted_at_two_children :
    let statuses := [{ path := "/d/b", length := 12 }, { path := "/d/a", folder := true }]
    Concluded (pathOutcomeOf someStorage.listTarget twoChildren) ∧
      (someStorage.list (.always (.ok twoChildren)) "/d").run = .ok statuses ∧
      GivesValue IsListing (pathOutcomeOf someStorage.listTarget twoChildren) statuses := by
  intro statuses
  have hreceived : received (pathOutcomeOf someStorage.listTarget twoChildren) = some twoChildren :=
    received_exchange_always (by decide +kernel)
  have hconcluded := concluded_of_received hreceived
  obtain ⟨-, hlist, hsorted⟩ :=
    path_answers_are_sorted (.always (.ok twoChildren)) someStorage "/d"
  have hanswer : someStorage.listAnswer "/d" (pathOutcomeOf someStorage.listTarget twoChildren) =
      .ok [{ path := "/d/b", length := 12 }, { path := "/d/a", folder := true }] := by
    decide +kernel
  refine ⟨hconcluded, ?_, ((hsorted _ hconcluded).2.1.answered_iff _).mp hanswer⟩
  rw [hlist, Id.run_bind, Id.run_pure]
  exact hanswer

/-- A path is not told to be absent by an answer of three thousand brackets, though its code says
so: the question ends in the depth of the answer, which nobody reports. -/
theorem deep_answer_is_no_path_fault :
    received (pathOutcomeOf someStorage.statTarget (deepAnswer 404 3000)) =
      some (deepAnswer 404 3000) ∧
    (someStorage.stat (.always (.ok (deepAnswer 404 3000))) "/d").run = .error (.tooDeep false) ∧
    (Fault.tooDeep false).kind ≠ .pathNotFound := by
  have hreceived : received (pathOutcomeOf someStorage.statTarget (deepAnswer 404 3000)) =
      some (deepAnswer 404 3000) := received_exchange_always (by decide +kernel)
  have hunread := unread_of_deepAnswer (by decide) hreceived
  have hsorted : (pathPartition IsStatus _).Sorts (someStorage.statAnswer "/d" _) :=
    takesBy_isStatus.sorted (concluded_of_received hreceived)
  refine ⟨hreceived, ?_, by decide⟩
  rw [someStorage.stat_exchange, Id.run_bind, Id.run_pure]
  exact ((hsorted.escaped_iff _).mpr hunread).1

end Http

end LoadDispatch
