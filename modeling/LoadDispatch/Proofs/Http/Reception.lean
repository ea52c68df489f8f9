import LoadDispatch.Proofs.Http.Inquiry
import LoadDispatch.Proofs.Json.Depth
import LoadDispatch.Proofs.Text.Utf8

/-!
# How a question ends

A question to a service is answered, or it ends in a fault that a load reports, or another fault
escapes.  A `Partition` gives each of these ends its condition.  It is exact (`Partition.Sorts`) as
soon as every condition leads to its end and one of them always holds, which is how the partitions
of the four operations are shown to be exact.

Two notions are common to the four.  A request has *concluded* if it got a response or failed as a
connection may fail.  A response is *unreadable* if its JSON cannot be made out, or its text where
this is asked for; then nothing is reported, and the fault of reading it escapes.  All it takes is a
body that is nested deeper than there is room for (`Response.unreadable_of_open_arrays`), and there
is such a body for every room.  What is not refused for its depth is read alike where there is more
room (`Response.json?_mono`).
-/

namespace LoadDispatch.Http

variable {α : Type}

/-! ## Partitions -/

/-- The ends of a question, each with the condition under which it comes. -/
structure Partition (α : Type) where
  /-- It is answered with a value. -/
  answered : α → Prop
  /-- It ends in a fault of a family that a load reports. -/
  reported : FaultKind → Prop
  /-- It ends in any other fault. -/
  escaped : Fault → Prop

/-- An answer comes under the conditions of a partition and under no others. -/
structure Partition.Sorts (p : Partition α) (answer : Except Fault α) : Prop where
  /-- Values. -/
  answered_iff : ∀ a, answer = .ok a ↔ p.answered a
  /-- Faults that are reported, by their family. -/
  reported_iff : ∀ kind, kind.isReported = true →
    ((∃ fault, answer = .error fault ∧ fault.kind = kind) ↔ p.reported kind)
  /-- All other faults. -/
  escaped_iff : ∀ fault, answer = .error fault ∧ fault.kind.isReported = false ↔ p.escaped fault

/-- A partition is exact if its conditions lead to their ends and one of them holds. -/
theorem Partition.sorts_of_total {p : Partition α} {answer : Except Fault α}
    (hanswered : ∀ a, p.answered a → answer = .ok a)
    (hreported : ∀ kind, p.reported kind →
      kind.isReported = true ∧ ∃ fault, answer = .error fault ∧ fault.kind = kind)
    (hescaped : ∀ fault, p.escaped fault →
      answer = .error fault ∧ fault.kind.isReported = false)
    (htotal : (∃ a, p.answered a) ∨ (∃ kind, p.reported kind) ∨ ∃ fault, p.escaped fault) :
    p.Sorts answer := by
  refine ⟨fun a => ⟨fun h => ?_, hanswered a⟩,
    fun kind hreports => ⟨?_, fun h => (hreported kind h).2⟩, fun fault => ⟨?_, hescaped fault⟩⟩
  · obtain ⟨b, hb⟩ | ⟨kind, hkind⟩ | ⟨fault, hfault⟩ := htotal
    · cases h.symm.trans (hanswered b hb)
      exact hb
    · obtain ⟨-, fault, hfault, -⟩ := hreported kind hkind
      cases h.symm.trans hfault
    · cases h.symm.trans (hescaped fault hfault).1
  · rintro ⟨fault, h, rfl⟩
    obtain ⟨b, hb⟩ | ⟨kind, hkind⟩ | ⟨fault', hfault'⟩ := htotal
    · cases h.symm.trans (hanswered b hb)
    · obtain ⟨-, fault', hfault', rfl⟩ := hreported kind hkind
      cases h.symm.trans hfault'
      exact hkind
    · obtain ⟨hfault', hnot⟩ := hescaped fault' hfault'
      cases h.symm.trans hfault'
      exact absurd hreports (by rw [hnot]; decide)
  · rintro ⟨h, hnot⟩
    obtain ⟨b, hb⟩ | ⟨kind, hkind⟩ | ⟨fault', hfault'⟩ := htotal
    · cases h.symm.trans (hanswered b hb)
    · obtain ⟨hreports, fault', heq, rfl⟩ := hreported kind hkind
      cases h.symm.trans heq
      exact absurd hreports (by rw [hnot]; decide)
    · cases h.symm.trans (hescaped fault' hfault').1
      exact hfault'

/-! ## Outcomes of a request -/

/-- The response that a request got, if it got one. -/
def received (outcome : Except Fault (Request × Response)) : Option Response :=
  outcome.toOption.map Prod.snd

/-- A request got a response or failed as a connection may fail. -/
def Concluded (outcome : Except Fault (Request × Response)) : Prop :=
  ∀ fault, outcome = .error fault → isTransportFault fault = true

theorem received_eq_some_iff {outcome : Except Fault (Request × Response)} {r : Response} :
    received outcome = some r ↔ ∃ request, outcome = .ok (request, r) := by
  rcases outcome with fault | ⟨request, response⟩ <;>
    simp [received, Except.toOption]

/-- A server that gives every request the same answer. -/
def Transport.always (answer : Except Fault Response) : Transport Id where
  connect := pure 1
  send _ _ := pure answer
  close _ := pure ()

/-- What is received of such a server is its response, if the request can be made and the response
is accepted. -/
theorem received_exchange_always {c : Client} {method target : String}
    {parameter : Option Parameter} {body : Option String} {r : Response}
    (h : (c.exchange (.always (.ok r)) method target parameter body).run.isOk = true) :
    received (c.exchange (.always (.ok r)) method target parameter body).run = some r := by
  unfold Client.exchange at h ⊢
  split at h
  · cases h
  · next request _ =>
    show received ((acceptResponse request r).map (request, ·)) = some r
    change ((acceptResponse request r).map (request, ·)).isOk = true at h
    unfold acceptResponse at h ⊢
    split at h
    · cases h
    · next hscheme =>
      rw [if_neg hscheme]
      cases hredirect : checkRedirect request r with
      | error fault =>
          rw [hredirect] at h
          cases h
      | ok => rfl

/-- A request without a response is another fault of the one who asked. -/
theorem Inquiry.read_of_failed {why : String → Fault}
    {interpret : Request → Response → Except Fault α} {fault : Fault}
    (h : isTransportFault fault = true) :
    Inquiry.read why interpret (.error fault) = .error (why fault.message) := by
  simp [Inquiry.read, unlessTransport, h]

/-! ## Responses -/

namespace Response

variable {r : Response} {fault : Fault}

theorem isSuccess_iff : r.isSuccess = true ↔ 200 ≤ r.code ∧ r.code < 300 := by
  simp [isSuccess]

/-- A successful response has a JSON body. -/
structure Yields (r : Response) (body : Json) : Prop where
  /-- The code tells of success. -/
  success : 200 ≤ r.code ∧ r.code < 300
  /-- The body is that JSON, and there is room for it. -/
  json : r.json? r.room.success = .ok (some body)

/-- A response cannot be made out. -/
inductive Unreadable (r : Response) (fault : Fault) : Prop where
  /-- Its body cannot be read as JSON where it is read, nor can it be told that it is none. -/
  | nested (json : r.json? r.depth = .error fault)
  /-- It tells of a failure, and its body is no JSON and has no text. -/
  | garbled (failed : ¬ (200 ≤ r.code ∧ r.code < 300)) (json : r.json? r.room.failure = .ok none)
      (text : r.text = .error fault)

/-- Only the depth of a JSON text keeps it from being read. -/
theorem json?_error {depth : Nat} (h : r.json? depth = .error fault) :
    ∃ inObject, fault = .tooDeep inObject := by
  unfold json? at h
  split at h
  · cases h
  · split at h
    · cases h
    · cases h
    · cases h
      exact ⟨_, rfl⟩

theorem text_error (h : r.text = .error fault) : fault.kind.isReported = false := by
  unfold text at h
  split at h
  · cases h
  · split at h
    · next hcharset =>
      cases h
      unfold charset at hcharset
      split at hcharset
      · cases hcharset
      · split at hcharset
        · cases hcharset
          rfl
        · cases hcharset
    · split at h
      · next why _ =>
        cases h
        cases why <;> rfl
      · cases h

/-- A fault of reading a response is not reported. -/
theorem Unreadable.isReported_eq_false (h : r.Unreadable fault) :
    fault.kind.isReported = false := by
  cases h with
  | nested json =>
      obtain ⟨inObject, rfl⟩ := json?_error json
      rfl
  | garbled _ _ text => exact text_error text

/-- The reason of a failure is missing just if the response cannot be made out. -/
theorem detail_eq_error_iff (hfailed : r.isSuccess = false) :
    r.detail = .error fault ↔ r.Unreadable fault := by
  have hcode : ¬ (200 ≤ r.code ∧ r.code < 300) := by
    rw [← isSuccess_iff, hfailed]
    exact Bool.false_ne_true
  constructor
  · intro h
    unfold detail at h
    split at h
    · next hjson =>
      cases h
      rw [← depth_of_failed hfailed] at hjson
      exact .nested hjson
    · cases h
    · next hjson =>
      refine .garbled hcode hjson ?_
      exact error_of_map h
  · intro h
    cases h with
    | nested json =>
        rw [depth_of_failed hfailed] at json
        rw [detail, json]
    | garbled _ json text =>
        rw [detail, json, text]
        rfl

/-- What is unreadable is missed where it is looked for: the JSON of a success, or the reason of a
failure. -/
theorem Unreadable.missed (h : r.Unreadable fault) :
    (r.isSuccess = true ∧ r.json? r.room.success = .error fault) ∨
      (r.isSuccess = false ∧ r.detail = .error fault) := by
  cases hsuccess : r.isSuccess with
  | true =>
      cases h with
      | nested json => exact .inl ⟨rfl, depth_of_success hsuccess ▸ json⟩
      | garbled failed => exact absurd (isSuccess_iff.mp hsuccess) failed
  | false => exact .inr ⟨rfl, (detail_eq_error_iff hsuccess).mpr h⟩

/-- What a response can be: JSON, unreadable, a success without JSON, or a failure with a reason. -/
theorem cases (r : Response) :
    (∃ body, r.Yields body) ∨ (∃ fault, r.Unreadable fault) ∨
      (r.isSuccess = true ∧ r.json? r.room.success = .ok none) ∨
      (r.isSuccess = false ∧ ∃ detail, r.detail = .ok detail) := by
  cases hsuccess : r.isSuccess with
  | true =>
      cases hjson : r.json? r.room.success with
      | error fault =>
          exact .inr (.inl ⟨fault, .nested (depth_of_success hsuccess ▸ hjson)⟩)
      | ok json =>
          rcases json with _ | body
          · exact .inr (.inr (.inl ⟨rfl, rfl⟩))
          · exact .inl ⟨body, isSuccess_iff.mp hsuccess, hjson⟩
  | false =>
      cases hdetail : r.detail with
      | error fault => exact .inr (.inl ⟨fault, (detail_eq_error_iff hsuccess).mp hdetail⟩)
      | ok detail => exact .inr (.inr (.inr ⟨rfl, detail, rfl⟩))

/-- What is not refused for its depth is read alike with more room. -/
theorem json?_mono {depth depth' : Nat} (hle : depth ≤ depth')
    (h : ∀ inObject, r.json? depth ≠ .error (.tooDeep inObject)) :
    r.json? depth' = r.json? depth := by
  unfold json? at h ⊢
  cases hchars : (Text.Encoding.ofJson r.body).strict? r.body with
  | none => rfl
  | some cs =>
      have hfits : Json.Fits (Json.readWithin depth cs) := by
        intro inObject hdeep
        refine h inObject ?_
        rw [hchars]
        dsimp only
        rw [hdeep]
      dsimp only
      rw [Json.readWithin_mono hle hfits]

/-- A body that opens more arrays than there is room for cannot be made out, whatever the code
is. -/
theorem unreadable_of_open_arrays {count : Nat} (h : r.depth < count)
    (hbody : r.body = Text.utf8Bytes (String.ofList (List.replicate count '['))) :
    r.Unreadable (.tooDeep false) := by
  have hutf8 : Text.HasUtf8 (String.ofList (List.replicate count '[')).toList := by
    refine Text.HasUtf8.of_ascii fun c hc => ?_
    rw [String.toList_ofList] at hc
    rw [List.eq_of_mem_replicate hc]
    decide
  have hencoding : Text.Encoding.ofJson r.body = .utf8 := by
    rw [hbody]
    match count with
    | 0 | 1 | 2 | 3 => decide
    | _ + 4 => exact Text.ofJson_utf8Bytes (by decide) (by decide) (by decide) (by decide)
  have hchars := Text.strict?_utf8Bytes hutf8
  rw [← hbody, String.toList_ofList] at hchars
  have hread : Json.readWithin r.depth (List.replicate count '[' ++ []) =
      .error (.tooDeep false) := Json.readWithin_of_open_arrays h
  rw [List.append_nil] at hread
  refine .nested ?_
  rw [json?, hencoding, hchars]
  dsimp only
  rw [hread]

end Response

/-- The response of a request is unreadable. -/
def Unread (outcome : Except Fault (Request × Response)) (fault : Fault) : Prop :=
  ∃ r, received outcome = some r ∧ r.Unreadable fault

/-- An answer whose body opens arrays and closes none. -/
def deepAnswer (code depth : Nat) : Response where
  code := code
  body := Text.utf8Bytes (String.ofList (List.replicate depth '['))
  room := .usual

theorem unread_of_deepAnswer {outcome : Except Fault (Request × Response)} {code depth : Nat}
    (h : (deepAnswer code depth).depth < depth)
    (hreceived : received outcome = some (deepAnswer code depth)) :
    Unread outcome (.tooDeep false) :=
  ⟨deepAnswer code depth, hreceived, Response.unreadable_of_open_arrays h rfl⟩

theorem concluded_of_received {outcome : Except Fault (Request × Response)} {r : Response}
    (h : received outcome = some r) : Concluded outcome := by
  obtain ⟨request, rfl⟩ := received_eq_some_iff.mp h
  rintro _ ⟨⟩

end LoadDispatch.Http
