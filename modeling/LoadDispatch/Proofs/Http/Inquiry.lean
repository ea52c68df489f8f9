import LoadDispatch.Http.JobClient
import LoadDispatch.Http.MetadataClient

/-!
# Inquiries

Whatever is asked of a service over HTTP is asked in the same way: a request is made, it is sent if
it can be made, and what comes back has a meaning.  An `Inquiry` is one such question, apart from
any transport; the four operations of the two services are inquiries (`JobClient.submit_eq` and the
three beside it).

A request ends well (`EndsWell`) if it gets a response that is accepted and can be read, whatever
its code and its body, or if it fails as a connection may fail.  The last part says what is left to
go wrong then: a question for metadata meets a fault that is reported and not the job service's, a
submission meets only faults of the job service, and a status query besides these only a status
that nobody knows.
-/

namespace LoadDispatch.Http

/-- A question to a service. -/
structure Inquiry (α : Type) where
  /-- The client that asks it. -/
  client : Nat
  /-- The request, if it can be made. -/
  request : Except Fault Request
  /-- What an answer means, or a fault of making the request. -/
  meaning : Except Fault (Request × Response) → Except Fault α

/-- A request with its response, if that is accepted. -/
def heard (request : Request) (answer : Except Fault Response) :
    Except Fault (Request × Response) :=
  match answer with
  | .error fault => .error fault
  | .ok response => (acceptResponse request response).map (request, ·)

/-- A request that got no response is another fault. -/
def unlessTransport (why : String → Fault) :
    Except Fault (Request × Response) → Except Fault (Request × Response)
  | .ok answer => .ok answer
  | .error fault => .error (if isTransportFault fault then why fault.message else fault)

/-- The request of a client, if it can be made. -/
def Client.request? (c : Client) (method target : String) (parameter : Option Parameter)
    (body : Option String) : Except Fault Request :=
  (targetUrl target parameter).bind (Request.make? method · body c.timeout)

/-- The meaning of an answer, unless there is a fault instead. -/
def Inquiry.read {α : Type} (why : String → Fault)
    (interpret : Request → Response → Except Fault α)
    (answer : Except Fault (Request × Response)) : Except Fault α :=
  match unlessTransport why answer with
  | .error fault => .error fault
  | .ok (request, response) => interpret request response

/-- The submission of a job. -/
def JobClient.submission (c : JobClient) (config : JobConfig) : Inquiry (Option Int) where
  client := c.number
  request :=
    match Schema.LoadJobPayload.ofConfig config with
    | .error report => .error (.refused report)
    | .ok payload => c.request? "POST" c.submissionTarget none (some (submissionBody payload))
  meaning answer :=
    (Inquiry.read (.jobRequest { method := "POST", url := c.submissionTarget })
      interpretSubmission answer).map some

/-- The question for the status of a job. -/
def JobClient.statusQuery (c : JobClient) (job : Int) : Inquiry PolledStatus where
  client := c.number
  request := c.request? "GET" (c.statusTarget job) none none
  meaning answer :=
    (Inquiry.read (.jobRequest { method := "GET", url := c.statusTarget job })
      interpretStatus answer).map .known

/-- The question for the metadata of a path. -/
def MetadataClient.statQuery (c : MetadataClient) (path : String) : Inquiry FileStatus where
  client := c.number
  request := c.request? "GET" c.statTarget (some (pathParameter path)) none
  meaning := Inquiry.read (.pathRequest c.statTarget path) (interpretStat c.statTarget path)

/-- The question for the listing of a folder. -/
def MetadataClient.listQuery (c : MetadataClient) (path : String) : Inquiry (List FileStatus) where
  client := c.number
  request := c.request? "GET" c.listTarget (some (pathParameter path)) none
  meaning := Inquiry.read (.pathRequest c.listTarget path) (interpretListing c.listTarget path)

section Operations

variable {m : Type → Type} [Monad m] {α : Type}

/-- Puts a question. -/
def Inquiry.ask (transport : Transport m) (q : Inquiry α) : m (Except Fault α) :=
  match q.request with
  | .error fault => pure (q.meaning (.error fault))
  | .ok request => do
    let answer ← transport.send q.client request
    pure (q.meaning (heard request answer))

variable (transport : Transport m)

theorem JobClient.send_eq (c : JobClient) (method target : String) (body : Option String) :
    c.send transport method target body = (do
      let answer ← c.exchange transport method target none body
      pure (unlessTransport (.jobRequest { method, url := target }) answer)) := by
  refine bind_congr fun answer => ?_
  rcases answer with fault | answer
  · cases h : isTransportFault fault <;> simp [unlessTransport, h]
  · rfl

theorem MetadataClient.ask_eq (c : MetadataClient) (target path : String) :
    c.ask transport target path = (do
      let answer ← c.exchange transport "GET" target (some (pathParameter path)) none
      pure (unlessTransport (.pathRequest target path) answer)) := by
  refine bind_congr fun answer => ?_
  rcases answer with fault | answer
  · cases h : isTransportFault fault <;> simp [unlessTransport, h]
  · rfl

variable [LawfulMonad m]

/-- What is made of the outcome of an exchange is an inquiry. -/
theorem Inquiry.ask_of_exchange (c : Client) (method target : String)
    (parameter : Option Parameter) (body : Option String)
    (meaning : Except Fault (Request × Response) → Except Fault α) :
    (do let answer ← c.exchange transport method target parameter body; pure (meaning answer)) =
      Inquiry.ask transport
        { client := c.number, request := c.request? method target parameter body, meaning } := by
  unfold Client.exchange ask
  show _ = match c.request? method target parameter body with
    | .error fault => pure (meaning (.error fault))
    | .ok request =>
      transport.send c.number request >>= fun answer => pure (meaning (heard request answer))
  unfold Client.request?
  match (targetUrl target parameter).bind (Request.make? method · body c.timeout) with
  | .error fault => simp
  | .ok request =>
      simp only [bind_assoc]
      refine bind_congr fun answer => ?_
      cases answer <;> simp [heard]

/-! ## The four operations -/

theorem JobClient.submit_eq (c : JobClient) (config : JobConfig) :
    (do let answer ← c.submit transport config; pure (answer.map some)) =
      (c.submission config).ask transport := by
  unfold submit
  cases hpayload : Schema.LoadJobPayload.ofConfig config with
  | error report =>
      simp [Inquiry.ask, submission, hpayload, Inquiry.read, unlessTransport, isTransportFault,
        Fault.kind, Except.map]
  | ok payload =>
      have h := Inquiry.ask_of_exchange transport c.toClient "POST" c.submissionTarget none
        (some (submissionBody payload)) (c.submission config).meaning
      have hrequest : (c.submission config).request =
          c.request? "POST" c.submissionTarget none (some (submissionBody payload)) := by
        rw [submission, hpayload]
      rw [← hrequest] at h
      refine Eq.trans ?_ h
      simp only [send_eq, bind_assoc, pure_bind]
      refine bind_congr fun answer => ?_
      show _ = pure ((Inquiry.read _ interpretSubmission answer).map some)
      unfold Inquiry.read
      cases unlessTransport (.jobRequest { method := "POST", url := c.submissionTarget }) answer <;>
        simp

theorem JobClient.poll_eq (c : JobClient) (job : Int) :
    (do let answer ← c.poll transport job; pure (answer.map PolledStatus.known)) =
      (c.statusQuery job).ask transport := by
  refine Eq.trans ?_ (Inquiry.ask_of_exchange transport c.toClient _ _ _ _ _)
  simp only [poll, send_eq, bind_assoc, pure_bind]
  refine bind_congr fun answer => ?_
  show _ = pure ((Inquiry.read _ interpretStatus answer).map PolledStatus.known)
  unfold Inquiry.read
  cases unlessTransport (.jobRequest { method := "GET", url := c.statusTarget job }) answer <;>
    simp

theorem MetadataClient.stat_eq (c : MetadataClient) (path : String) :
    c.stat transport path = (c.statQuery path).ask transport := by
  refine Eq.trans ?_ (Inquiry.ask_of_exchange transport c.toClient _ _ _ _ _)
  simp only [stat, ask_eq, bind_assoc, pure_bind]
  refine bind_congr fun answer => ?_
  show _ = pure (Inquiry.read _ (interpretStat c.statTarget path) answer)
  unfold Inquiry.read
  cases unlessTransport (.pathRequest c.statTarget path) answer <;> rfl

theorem MetadataClient.list_eq (c : MetadataClient) (path : String) :
    c.list transport path = (c.listQuery path).ask transport := by
  refine Eq.trans ?_ (Inquiry.ask_of_exchange transport c.toClient _ _ _ _ _)
  simp only [list, ask_eq, bind_assoc, pure_bind]
  refine bind_congr fun answer => ?_
  show _ = pure (Inquiry.read _ (interpretListing c.listTarget path) answer)
  unfold Inquiry.read
  cases unlessTransport (.pathRequest c.listTarget path) answer <;> rfl

end Operations

/-! ## Requests that end well -/

/-- The room for the one read of a body as JSON: that of a success is read, and that of a failure is
read for its reason. -/
def Response.depth (r : Response) : Nat :=
  if r.isSuccess then r.room.success else r.room.failure

theorem Response.depth_of_success {r : Response} (h : r.isSuccess = true) :
    r.depth = r.room.success :=
  if_pos h

theorem Response.depth_of_failed {r : Response} (h : r.isSuccess = false) :
    r.depth = r.room.failure :=
  if_neg (Bool.eq_false_iff.mp h)

/-- The body can be read: its text can be decoded, and if it is JSON, there is room for it. -/
structure Response.Readable (r : Response) : Prop where
  /-- As text. -/
  text : ∃ text, r.text = .ok text
  /-- As JSON, which it may be or not. -/
  json : ∃ json, r.json? r.depth = .ok json

theorem isOk_iff {ε α : Type} {x : Except ε α} : x.isOk = true ↔ ∃ a, x = .ok a := by
  cases x <;> simp [Except.isOk, Except.toBool]

instance (r : Response) : Decidable r.Readable :=
  decidable_of_iff (r.text.isOk = true ∧ (r.json? r.depth).isOk = true)
    ⟨fun h => ⟨isOk_iff.mp h.1, isOk_iff.mp h.2⟩,
      fun h => ⟨isOk_iff.mpr h.text, isOk_iff.mpr h.json⟩⟩

/-- A request ends in a response that is accepted and can be read, or it fails as a connection may
fail. -/
def EndsWell (request : Request) (answer : Except Fault Response) : Prop :=
  match heard request answer with
  | .error fault => isTransportFault fault = true
  | .ok (_, response) => response.Readable

instance (request : Request) (answer : Except Fault Response) :
    Decidable (EndsWell request answer) :=
  match h : heard request answer with
  | .error fault => decidable_of_iff (isTransportFault fault = true) (by rw [EndsWell, h])
  | .ok (_, response) => decidable_of_iff response.Readable (by rw [EndsWell, h])

section EndsWell

variable {α : Type} {request : Request} {answer : Except Fault Response} {fault : Fault}

/-- What ends well means a fault only if there was no response, or if the response means one. -/
theorem EndsWell.read_error (h : EndsWell request answer) {why : String → Fault}
    {interpret : Request → Response → Except Fault α}
    (hread : Inquiry.read why interpret (heard request answer) = .error fault) :
    (∃ text, fault = why text) ∨
      ∃ response : Response, response.Readable ∧ ∃ request, interpret request response =
        .error fault := by
  unfold EndsWell at h
  unfold Inquiry.read at hread
  match hheard : heard request answer with
  | .error cause =>
      rw [hheard] at h hread
      dsimp only at h
      simp only [unlessTransport, h, if_true] at hread
      cases hread
      exact .inl ⟨_, rfl⟩
  | .ok (asked, response) =>
      rw [hheard] at h hread
      exact .inr ⟨response, h, asked, hread⟩

theorem Response.Readable.detail {r : Response} (h : r.Readable) (hfailed : r.isSuccess = false) :
    ∃ text, r.detail = .ok text := by
  obtain ⟨⟨text, htext⟩, json, hjson⟩ := h
  rw [depth_of_failed hfailed] at hjson
  unfold Response.detail
  rw [hjson, htext]
  cases json <;> exact ⟨_, rfl⟩

/-- A question for metadata meets a fault that is reported, and not as the job service's. -/
def IsOfPath (fault : Fault) : Prop :=
  fault.kind = .metadata ∨ fault.kind = .permission ∨ fault.kind = .pathNotFound

theorem IsOfPath.reported (h : IsOfPath fault) :
    fault.kind.isReported = true ∧ fault.kind ≠ .jobService := by
  rcases h with h | h | h <;> rw [h] <;> exact ⟨rfl, by decide⟩

theorem interpretPath_error {target path : String} {response : Response} (h : response.Readable)
    (herror : interpretPath target path request response = .error fault) : IsOfPath fault := by
  unfold interpretPath at herror
  split at herror
  · next hsuccess =>
    obtain ⟨json, hjson⟩ := h.json
    rw [Response.depth_of_success hsuccess] at hjson
    rw [hjson] at herror
    cases json with
    | none =>
        cases herror
        exact .inl rfl
    | some => cases herror
  · next hfailed =>
    obtain ⟨detail, hdetail⟩ := h.detail (Bool.eq_false_iff.mpr hfailed)
    unfold pathFailure at herror
    rw [hdetail] at herror
    cases herror
    dsimp only
    split
    · exact .inr (.inr rfl)
    · split
      · exact .inr (.inl rfl)
      · exact .inl rfl

theorem EndsWell.stat_error (h : EndsWell request answer) {c : MetadataClient} {path : String}
    (herror : (c.statQuery path).meaning (heard request answer) = .error fault) :
    IsOfPath fault := by
  obtain ⟨text, rfl⟩ | ⟨response, hreadable, asked, hinterpret⟩ := h.read_error herror
  · exact .inl rfl
  · unfold interpretStat at hinterpret
    cases hpath : interpretPath c.statTarget path asked response with
    | error cause =>
        rw [hpath] at hinterpret
        cases hinterpret
        exact interpretPath_error hreadable hpath
    | ok body =>
        rw [hpath] at hinterpret
        dsimp only at hinterpret
        split at hinterpret
        · cases hinterpret
        · cases hinterpret
          exact .inl rfl

theorem EndsWell.list_error (h : EndsWell request answer) {c : MetadataClient} {path : String}
    (herror : (c.listQuery path).meaning (heard request answer) = .error fault) :
    IsOfPath fault := by
  obtain ⟨text, rfl⟩ | ⟨response, hreadable, asked, hinterpret⟩ := h.read_error herror
  · exact .inl rfl
  · unfold interpretListing at hinterpret
    cases hpath : interpretPath c.listTarget path asked response with
    | error cause =>
        rw [hpath] at hinterpret
        cases hinterpret
        exact interpretPath_error hreadable hpath
    | ok body =>
        rw [hpath] at hinterpret
        dsimp only at hinterpret
        split at hinterpret
        · cases hinterpret
        · cases hinterpret
          exact .inl rfl

theorem interpretObject_error {response : Response} (h : response.Readable)
    (herror : interpretObject request response = .error fault) : fault.isJobService = true := by
  unfold interpretObject at herror
  split at herror
  · next hsuccess =>
    obtain ⟨json, hjson⟩ := h.json
    rw [Response.depth_of_success hsuccess] at hjson
    rw [hjson] at herror
    rcases json with _ | body
    · cases herror
      rfl
    · cases body with
      | obj members => cases herror
      | _ =>
          cases herror
          rfl
  · next hfailed =>
    obtain ⟨detail, hdetail⟩ := h.detail (Bool.eq_false_iff.mpr hfailed)
    rw [hdetail] at herror
    cases herror
    rfl

theorem error_of_map {β : Type} {f : α → β} {x : Except Fault α} (h : x.map f = .error fault) :
    x = .error fault := by
  cases x <;> cases h
  rfl

/-- A submission meets only faults of the job service. -/
theorem EndsWell.submission_error (h : EndsWell request answer) {c : JobClient}
    {config : JobConfig}
    (herror : (c.submission config).meaning (heard request answer) = .error fault) :
    fault.isJobService = true := by
  obtain ⟨text, rfl⟩ | ⟨response, hreadable, asked, hinterpret⟩ :=
    h.read_error (error_of_map herror)
  · rfl
  · unfold interpretSubmission at hinterpret
    cases hobject : interpretObject asked response with
    | error cause =>
        rw [hobject] at hinterpret
        cases hinterpret
        exact interpretObject_error hreadable hobject
    | ok body =>
        rw [hobject] at hinterpret
        dsimp only at hinterpret
        split at hinterpret
        · cases hinterpret
        · cases hinterpret
          rfl

/-- A status query meets only faults of the job service, and a status that nobody knows. -/
theorem EndsWell.statusQuery_error (h : EndsWell request answer) {c : JobClient} {job : Int}
    (herror : (c.statusQuery job).meaning (heard request answer) = .error fault) :
    fault.isJobService = true ∨ fault.kind = .unexpectedStatus := by
  obtain ⟨text, rfl⟩ | ⟨response, hreadable, asked, hinterpret⟩ :=
    h.read_error (error_of_map herror)
  · exact .inl rfl
  · unfold interpretStatus at hinterpret
    cases hobject : interpretObject asked response with
    | error cause =>
        rw [hobject] at hinterpret
        cases hinterpret
        exact .inl (interpretObject_error hreadable hobject)
    | ok body =>
        rw [hobject] at hinterpret
        dsimp only at hinterpret
        split at hinterpret
        · unfold JobStatus.parse at hinterpret
          split at hinterpret
          · cases hinterpret
          · cases hinterpret
            exact .inr rfl
        · cases hinterpret
          exact .inl rfl

/-- What a status query means is one of the five statuses. -/
theorem statusQuery_known {c : JobClient} {job : Int} {status : PolledStatus}
    {outcome : Except Fault (Request × Response)}
    (h : (c.statusQuery job).meaning outcome = .ok status) : ∃ known, status = .known known := by
  unfold JobClient.statusQuery at h
  dsimp only at h
  cases hread : Inquiry.read (.jobRequest { method := "GET", url := c.statusTarget job })
      interpretStatus outcome with
  | error cause =>
      rw [hread] at h
      cases h
  | ok known =>
      rw [hread] at h
      cases h
      exact ⟨known, rfl⟩

end EndsWell

end LoadDispatch.Http
