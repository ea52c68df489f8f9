import LoadDispatch.Proofs.Http.Reception
import LoadDispatch.Proofs.Http.Submission

/-!
# What the answers of the job service mean

Whether a job is tried again hangs on what a session makes of a response: a fault of the job service
is absorbed, a status that nobody knows ends the load, and so does whatever else escapes.  Here both
operations of a session are sorted by the outcomes of their requests (`job_answers_are_sorted`).

A submission returns a number, and a status query a status, only if the response is successful and
its body an object of the right kind.  A query whose object is of the right kind and names no status
is unexpected.  In every other case the job service is at fault, unless the response is unreadable:
an answer of too many brackets is no fault of the job service, whatever its code
(`deep_answer_is_no_job_fault`).
-/

namespace LoadDispatch

/-- A text is the word for a status, in any case and with blanks around it. -/
def Names (text : String) (status : JobStatus) : Prop :=
  Text.upper (Text.trim text) = status.word

theorem JobStatus.ofWord?_eq_some_iff {word : String} {status : JobStatus} :
    ofWord? word = some status ↔ word = status.word := by
  constructor
  · intro h
    have hword := List.find?_some h
    simp only [beq_iff_eq] at hword
    exact hword.symm
  · rintro rfl
    exact ofWord?_word status

theorem JobStatus.parse_of_names {text : String} {status : JobStatus} (h : Names text status) :
    parse text = .ok status := by
  rw [parse, ofWord?_eq_some_iff.mpr h]

theorem JobStatus.parse_of_unnamed {text : String} (h : ∀ status, ¬ Names text status) :
    parse text = .error (.unreadableStatus text) := by
  unfold parse
  split
  · next status hword => exact absurd (ofWord?_eq_some_iff.mp hword) (h status)
  · rfl

namespace Schema

/-! ## The objects that are sent -/

/-- An object holds the number of a job, under the services' name for it or else under ours. -/
def Numbers (members : List (String × Json)) (n : Int) : Prop :=
  ∃ value, (Json.member? members "jobId").or (Json.member? members "job_id") = some value ∧
    readWhole value = .ok n

/-- An object holds the text of a status. -/
def Tells (members : List (String × Json)) (text : String) : Prop :=
  Json.member? members "status" = some (.str text)

variable {members : List (String × Json)} {n : Int} {text : String}

theorem jobId_eq_ok_iff :
    jobIdField.required (.ofScalar ∘ readWhole) members = .ok n ↔ Numbers members n := by
  have hfind : jobIdField.find? members =
      ((Json.member? members "jobId").map ("jobId", ·)).or
        ((Json.member? members "job_id").map ("job_id", ·)) := by
    simp only [Field.find?, jobIdField, Option.bind_some]
    cases Json.member? members "jobId" <;> rfl
  rw [Field.required_eq_ok_iff, hfind, Numbers]
  cases Json.member? members "jobId" <;> cases Json.member? members "job_id" <;> simp

theorem status_eq_ok_iff :
    JobStatusPayload.statusField.required (.ofScalar ∘ readText) members = .ok text ↔
      Tells members text := by
  have hfind : JobStatusPayload.statusField.find? members =
      (Json.member? members "status").map ("status", ·) := rfl
  rw [Field.required_eq_ok_iff, hfind, Tells]
  cases Json.member? members "status" with
  | none => simp
  | some value => cases value <;> simp [readText]

theorem SubmittedPayload.read_eq_ok_iff {payload : SubmittedPayload} :
    read (.obj members) = .ok payload ↔ Numbers members payload.jobId := by
  rw [read, Reading.titled_eq_ok_iff, readObject, readMembers_eq_ok_iff, jobId_eq_ok_iff]

theorem JobStatusPayload.read_eq_ok_iff {payload : JobStatusPayload} :
    read (.obj members) = .ok payload ↔
      Numbers members payload.jobId ∧ Tells members payload.status := by
  rw [read, Reading.titled_eq_ok_iff, readObject, readMembers_eq_ok_iff, jobId_eq_ok_iff,
    status_eq_ok_iff]

end Schema

namespace Http

open Schema (Numbers Tells SubmittedPayload JobStatusPayload)

/-! ## Outcomes -/

section Outcomes

variable (outcome : Except Fault (Request × Response))

/-- The response is an object with the number of a job. -/
def GivesNumber (n : Int) : Prop :=
  ∃ r members, received outcome = some r ∧ r.Yields (.obj members) ∧ Numbers members n

/-- The response is an object with the number of a job and the text of a status. -/
def GivesText (text : String) : Prop :=
  ∃ r members n, received outcome = some r ∧ r.Yields (.obj members) ∧ Numbers members n ∧
    Tells members text

/-- How a submission ends. -/
def submissionPartition : Partition Int where
  answered := GivesNumber outcome
  reported kind :=
    kind = .jobService ∧ (∀ n, ¬ GivesNumber outcome n) ∧ ∀ fault, ¬ Unread outcome fault
  escaped := Unread outcome

/-- How a status query ends. -/
def statusPartition : Partition JobStatus where
  answered status := ∃ text, GivesText outcome text ∧ Names text status
  reported kind :=
    kind = .unexpectedStatus ∧ (∃ text, GivesText outcome text ∧ ∀ status, ¬ Names text status) ∨
    kind = .jobService ∧ (∀ text, ¬ GivesText outcome text) ∧ ∀ fault, ¬ Unread outcome fault
  escaped := Unread outcome

end Outcomes

/-! ## Objects in responses -/

variable {request : Request} {r : Response} {members : List (String × Json)} {fault : Fault}

theorem interpretObject_of_yields (h : r.Yields (.obj members)) :
    interpretObject request r = .ok (.obj members) := by
  rw [interpretObject, if_pos (Response.isSuccess_iff.mpr h.success), h.json]

theorem interpretObject_of_unreadable (h : r.Unreadable fault) :
    interpretObject request r = .error fault := by
  obtain ⟨hsuccess, hjson⟩ | ⟨hfailed, hdetail⟩ := h.missed
  · rw [interpretObject, if_pos hsuccess, hjson]
  · rw [interpretObject, hfailed, if_neg Bool.false_ne_true, hdetail]

/-- A response that is neither an object nor unreadable is a fault of the job service. -/
theorem interpretObject_cases (request : Request) (r : Response) :
    (∃ members, r.Yields (.obj members)) ∨ (∃ fault, r.Unreadable fault) ∨
      ∃ fault, interpretObject request r = .error fault ∧ fault.kind = .jobService := by
  obtain ⟨body, hyields⟩ | hunreadable | ⟨hsuccess, hjson⟩ | ⟨hfailed, detail, hdetail⟩ := r.cases
  · cases body with
    | obj members => exact .inl ⟨members, hyields⟩
    | _ =>
        refine .inr (.inr ⟨.jobBodyKind request.line, ?_, rfl⟩)
        rw [interpretObject, if_pos (Response.isSuccess_iff.mpr hyields.success), hyields.json]
  · exact .inr (.inl hunreadable)
  · refine .inr (.inr ⟨.jobBody request.line, ?_, rfl⟩)
    rw [interpretObject, if_pos hsuccess, hjson]
  · refine .inr (.inr ⟨.jobResponse request.line r.code detail, ?_, rfl⟩)
    rw [interpretObject, hfailed, if_neg Bool.false_ne_true, hdetail]

/-! ## Both operations -/

/-- What a session makes of the outcome of a submission. -/
def JobClient.submissionAnswer (c : JobClient) (outcome : Except Fault (Request × Response)) :
    Except Fault Int :=
  Inquiry.read (.jobRequest { method := "POST", url := c.submissionTarget }) interpretSubmission
    outcome

/-- What a session makes of the outcome of a status query. -/
def JobClient.statusAnswer (c : JobClient) (job : Int)
    (outcome : Except Fault (Request × Response)) : Except Fault JobStatus :=
  Inquiry.read (.jobRequest { method := "GET", url := c.statusTarget job }) interpretStatus outcome

section Reading

variable {α : Type} {outcome : Except Fault (Request × Response)} {line : RequestLine}
  {interpret : Request → Response → Except Fault α}

/-- What is unreadable escapes, if there is no meaning without an object. -/
theorem read_of_unread (hinterpret : ∀ request r fault,
      interpretObject request r = .error fault → interpret request r = .error fault)
    (h : Unread outcome fault) :
    Inquiry.read (.jobRequest line) interpret outcome = .error fault ∧
      fault.kind.isReported = false := by
  obtain ⟨r, hreceived, hunreadable⟩ := h
  obtain ⟨request, rfl⟩ := received_eq_some_iff.mp hreceived
  exact ⟨hinterpret request r fault (interpretObject_of_unreadable hunreadable),
    hunreadable.isReported_eq_false⟩

/-- What is not unreadable is an object or a fault of the job service. -/
theorem object_or_refused (hinterpret : ∀ request r fault,
      interpretObject request r = .error fault → interpret request r = .error fault)
    (h : Concluded outcome) (hunread : ∀ fault, ¬ Unread outcome fault) :
    (∃ request r members, outcome = .ok (request, r) ∧ r.Yields (.obj members)) ∨
      ∃ fault, Inquiry.read (.jobRequest line) interpret outcome = .error fault ∧
        fault.kind = .jobService := by
  rcases outcome with fault | ⟨request, r⟩
  · exact .inr ⟨_, Inquiry.read_of_failed (h fault rfl), rfl⟩
  obtain ⟨members, hyields⟩ | ⟨fault, hunreadable⟩ | ⟨fault, hobject, hkind⟩ :=
    interpretObject_cases request r
  · exact .inl ⟨request, r, members, rfl, hyields⟩
  · exact absurd ⟨r, rfl, hunreadable⟩ (hunread fault)
  · exact .inr ⟨fault, hinterpret request r fault hobject, hkind⟩

end Reading

theorem interpretSubmission_of_error (request : Request) (r : Response) (fault : Fault)
    (h : interpretObject request r = .error fault) :
    interpretSubmission request r = .error fault := by
  rw [interpretSubmission, h]

theorem interpretStatus_of_error (request : Request) (r : Response) (fault : Fault)
    (h : interpretObject request r = .error fault) :
    interpretStatus request r = .error fault := by
  rw [interpretStatus, h]

theorem interpretSubmission_of_read {payload : SubmittedPayload} (h : r.Yields (.obj members))
    (hread : SubmittedPayload.read (.obj members) = .ok payload) :
    interpretSubmission request r = .ok payload.jobId := by
  simp only [interpretSubmission, interpretObject_of_yields h, hread]

theorem interpretSubmission_of_refused {report : Schema.Report} (h : r.Yields (.obj members))
    (hread : SubmittedPayload.read (.obj members) = .error report) :
    interpretSubmission request r = .error (.jobSubmission report) := by
  simp only [interpretSubmission, interpretObject_of_yields h, hread]

theorem interpretStatus_of_read {payload : JobStatusPayload} (h : r.Yields (.obj members))
    (hread : JobStatusPayload.read (.obj members) = .ok payload) :
    interpretStatus request r = JobStatus.parse payload.status := by
  simp only [interpretStatus, interpretObject_of_yields h, hread]

theorem interpretStatus_of_refused {report : Schema.Report} (h : r.Yields (.obj members))
    (hread : JobStatusPayload.read (.obj members) = .error report) :
    interpretStatus request r = .error (.jobStatus report) := by
  simp only [interpretStatus, interpretObject_of_yields h, hread]

variable {outcome : Except Fault (Request × Response)}

/-- A submission ends as its outcome says. -/
theorem submissionAnswer_sorted (c : JobClient) (h : Concluded outcome) :
    (submissionPartition outcome).Sorts (c.submissionAnswer outcome) := by
  refine Partition.sorts_of_total ?_ ?_ (fun _ => read_of_unread interpretSubmission_of_error) ?_
  · rintro n ⟨r, members, hreceived, hyields, hnumbers⟩
    obtain ⟨request, rfl⟩ := received_eq_some_iff.mp hreceived
    have hread : SubmittedPayload.read (.obj members) = .ok { jobId := n } :=
      SubmittedPayload.read_eq_ok_iff.mpr hnumbers
    show interpretSubmission request r = _
    rw [interpretSubmission_of_read hyields hread]
  · rintro kind ⟨rfl, hnumber, hunread⟩
    refine ⟨rfl, ?_⟩
    obtain ⟨request, r, members, rfl, hyields⟩ | hrefused :=
      object_or_refused interpretSubmission_of_error h hunread
    · cases hread : SubmittedPayload.read (.obj members) with
      | ok payload =>
          have hnumbers := SubmittedPayload.read_eq_ok_iff.mp hread
          exact absurd ⟨r, members, rfl, hyields, hnumbers⟩ (hnumber payload.jobId)
      | error report =>
          exact ⟨.jobSubmission report, interpretSubmission_of_refused hyields hread, rfl⟩
    · exact hrefused
  · by_cases hnumber : ∃ n, GivesNumber outcome n
    · exact .inl hnumber
    by_cases hunread : ∃ fault, Unread outcome fault
    · exact .inr (.inr hunread)
    exact .inr (.inl ⟨_, rfl, not_exists.mp hnumber, not_exists.mp hunread⟩)

/-- The meaning of a status query with a text is that of the text. -/
theorem statusAnswer_of_givesText {c : JobClient} {job : Int} {text : String}
    (h : GivesText outcome text) : c.statusAnswer job outcome = JobStatus.parse text := by
  obtain ⟨r, members, n, hreceived, hyields, hnumbers, htells⟩ := h
  obtain ⟨request, rfl⟩ := received_eq_some_iff.mp hreceived
  have hread : JobStatusPayload.read (.obj members) = .ok { jobId := n, status := text } :=
    JobStatusPayload.read_eq_ok_iff.mpr ⟨hnumbers, htells⟩
  show interpretStatus request r = _
  rw [interpretStatus_of_read hyields hread]

/-- A status query ends as its outcome says. -/
theorem statusAnswer_sorted (c : JobClient) (job : Int) (h : Concluded outcome) :
    (statusPartition outcome).Sorts (c.statusAnswer job outcome) := by
  refine Partition.sorts_of_total ?_ ?_ (fun _ => read_of_unread interpretStatus_of_error) ?_
  · rintro status ⟨text, htext, hnames⟩
    rw [statusAnswer_of_givesText htext, JobStatus.parse_of_names hnames]
  · rintro kind (⟨rfl, text, htext, hunnamed⟩ | ⟨rfl, htext, hunread⟩)
    · refine ⟨rfl, .unreadableStatus text, ?_, rfl⟩
      rw [statusAnswer_of_givesText htext, JobStatus.parse_of_unnamed hunnamed]
    refine ⟨rfl, ?_⟩
    obtain ⟨request, r, members, rfl, hyields⟩ | hrefused :=
      object_or_refused interpretStatus_of_error h hunread
    · cases hread : JobStatusPayload.read (.obj members) with
      | ok payload =>
          obtain ⟨hnumbers, htells⟩ := JobStatusPayload.read_eq_ok_iff.mp hread
          exact absurd ⟨r, members, _, rfl, hyields, hnumbers, htells⟩ (htext payload.status)
      | error report =>
          exact ⟨.jobStatus report, interpretStatus_of_refused hyields hread, rfl⟩
    · exact hrefused
  · by_cases htext : ∃ text, GivesText outcome text
    · obtain ⟨text, htext⟩ := htext
      by_cases hnames : ∃ status, Names text status
      · obtain ⟨status, hnames⟩ := hnames
        exact .inl ⟨status, text, htext, hnames⟩
      · exact .inr (.inl ⟨_, .inl ⟨rfl, text, htext, not_exists.mp hnames⟩⟩)
    by_cases hunread : ∃ fault, Unread outcome fault
    · exact .inr (.inr hunread)
    exact .inr (.inl ⟨_, .inr ⟨rfl, not_exists.mp htext, not_exists.mp hunread⟩⟩)

/-! ## The session -/

section Session

variable {m : Type → Type} [Monad m] [LawfulMonad m] (transport : Transport m)

theorem JobClient.submit_exchange (c : JobClient) {config : JobConfig}
    (h : 1 ≤ config.replication) :
    c.submit transport config = (do
      let outcome ← c.exchange transport "POST" c.submissionTarget none
        (some (submissionBody { filePath := config.path, replication := config.replication }))
      pure (c.submissionAnswer outcome)) := by
  rw [submit_of_one_le transport c h, send_eq, bind_assoc]
  refine bind_congr fun outcome => ?_
  rw [pure_bind, submissionAnswer, Inquiry.read]
  cases unlessTransport (.jobRequest { method := "POST", url := c.submissionTarget }) outcome <;>
    rfl

theorem JobClient.poll_exchange (c : JobClient) (job : Int) :
    c.poll transport job = (do
      let outcome ← c.exchange transport "GET" (c.statusTarget job) none none
      pure (c.statusAnswer job outcome)) := by
  rw [poll, send_eq, bind_assoc]
  refine bind_congr fun outcome => ?_
  rw [pure_bind, statusAnswer, Inquiry.read]
  cases unlessTransport (.jobRequest { method := "GET", url := c.statusTarget job }) outcome <;> rfl

/-- **The answers of the job service are sorted by the outcomes of the requests.**  Both operations
make their answer of the outcome alone; what is made of one that has concluded is given by the two
partitions, which leave nothing out. -/
theorem job_answers_are_sorted (c : JobClient) {config : JobConfig} (h : 1 ≤ config.replication)
    (job : Int) :
    c.submit transport config = (do
      let outcome ← c.exchange transport "POST" c.submissionTarget none
        (some (submissionBody { filePath := config.path, replication := config.replication }))
      pure (c.submissionAnswer outcome)) ∧
    c.poll transport job = (do
      let outcome ← c.exchange transport "GET" (c.statusTarget job) none none
      pure (c.statusAnswer job outcome)) ∧
    ∀ outcome, Concluded outcome →
      (submissionPartition outcome).Sorts (c.submissionAnswer outcome) ∧
      (statusPartition outcome).Sorts (c.statusAnswer job outcome) :=
  ⟨c.submit_exchange transport h, c.poll_exchange transport job,
    fun _ hconcluded =>
      ⟨submissionAnswer_sorted c hconcluded, statusAnswer_sorted c job hconcluded⟩⟩

end Session

/-- A session, for the two theorems below. -/
def someSession : JobClient :=
  ⟨{ base := "http://jobs.test", timeout := some 10.0, number := 1 }⟩

/-- What becomes of its request for a job, if every request gets the same response. -/
def outcomeOf (r : Response) : Except Fault (Request × Response) :=
  (someSession.exchange (.always (.ok r)) "POST" someSession.submissionTarget none
    (some (submissionBody { filePath := "/f", replication := 1 }))).run

/-- A number under either name, spelled as a text, and a status in lower case with a line feed. -/
def spelledAnswer : Response where
  code := 201
  body := Text.utf8Bytes
    "\x7b\"job_id\": 3, \"jobId\": \" 1_0 \", \"status\": \"running\\n\"\x7d"
  room := { success := 1, failure := 0 }

/-- The number that counts is the one under the services' name, and the status is `running`. -/
theorem job_answers_are_sorted_at_spelled_answer :
    (1 : Int) ≤ 1 ∧ Concluded (outcomeOf spelledAnswer) ∧
      (someSession.submit (.always (.ok spelledAnswer)) { path := "/f" }).run = .ok 10 ∧
      GivesNumber (outcomeOf spelledAnswer) 10 ∧
      ∃ text, GivesText (outcomeOf spelledAnswer) text ∧ Names text .running := by
  have hreceived : received (outcomeOf spelledAnswer) = some spelledAnswer :=
    received_exchange_always (by decide +kernel)
  have hconcluded := concluded_of_received hreceived
  obtain ⟨hsubmit, -, hsorted⟩ := job_answers_are_sorted (.always (.ok spelledAnswer)) someSession
    (show 1 ≤ ({ path := "/f" } : JobConfig).replication by decide) 10
  obtain ⟨hsubmission, hstatus⟩ := hsorted _ hconcluded
  have hnumber : someSession.submissionAnswer (outcomeOf spelledAnswer) = .ok 10 := by
    decide +kernel
  have hrunning : someSession.statusAnswer 10 (outcomeOf spelledAnswer) = .ok .running := by
    decide +kernel
  refine ⟨by decide, hconcluded, ?_, (hsubmission.answered_iff 10).mp hnumber,
    (hstatus.answered_iff .running).mp hrunning⟩
  rw [hsubmit, Id.run_bind, Id.run_pure]
  exact hnumber

/-- A service that fails with an answer of three thousand brackets is not at fault: the submission
ends in the depth of the answer, which nobody reports. -/
theorem deep_answer_is_no_job_fault :
    received (outcomeOf (deepAnswer 503 3000)) = some (deepAnswer 503 3000) ∧
    (someSession.submit (.always (.ok (deepAnswer 503 3000))) { path := "/f" }).run =
      .error (.tooDeep false) ∧
    (Fault.tooDeep false).isJobService = false := by
  have hreceived : received (outcomeOf (deepAnswer 503 3000)) = some (deepAnswer 503 3000) :=
    received_exchange_always (by decide +kernel)
  have hunread := unread_of_deepAnswer (by decide) hreceived
  have hsorted := submissionAnswer_sorted someSession (concluded_of_received hreceived)
  refine ⟨hreceived, ?_, rfl⟩
  rw [someSession.submit_exchange _ (by decide), Id.run_bind, Id.run_pure]
  exact ((hsorted.escaped_iff _).mpr hunread).1

end Http

end LoadDispatch
