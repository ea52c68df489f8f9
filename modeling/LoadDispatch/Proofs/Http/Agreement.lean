import LoadDispatch.CommandLine.Command
import LoadDispatch.Proofs.Agreement

/-!
# One command at two transports

The clients of both services are written over a transport, and the command over a transport and a
terminal.  What agrees there agrees in all that is built on it (`runInvocation_agree`).
-/

namespace LoadDispatch

variable {σ τ α : Type}

/-- The operations of two transports agree. -/
structure Http.Transport.AgreesWith (T : Http.Transport (StateM σ)) (R : σ → τ → Prop)
    (Good : τ → Prop) (U : Http.Transport (StateM τ)) : Prop where
  /-- Opening a client. -/
  connect : Agree R Good T.connect U.connect
  /-- Sending a request. -/
  send : ∀ client request, Agree R Good (T.send client request) (U.send client request)
  /-- Closing a client. -/
  close : ∀ client, Agree R Good (T.close client) (U.close client)

/-- The operations of two terminals agree, as far as a load uses them. -/
structure CommandLine.Terminal.AgreesWith (T : CommandLine.Terminal (StateM σ))
    (R : σ → τ → Prop) (Good : τ → Prop) (U : CommandLine.Terminal (StateM τ)) : Prop where
  /-- Writing a line. -/
  out : ∀ line, Agree R Good (T.out line) (U.out line)
  /-- Writing a line to the error output. -/
  err : ∀ line, Agree R Good (T.err line) (U.err line)
  /-- Writing an entry of the log. -/
  log : ∀ entry, Agree R Good (T.log entry) (U.log entry)
  /-- Being told what nobody sees. -/
  note : ∀ notice, Agree R Good (T.note notice) (U.note notice)
  /-- Waiting. -/
  pause : ∀ seconds, Agree R Good (T.pause seconds) (U.pause seconds)

variable {R : σ → τ → Prop} {Good : τ → Prop}

namespace Http

variable {T : Transport (StateM σ)} {U : Transport (StateM τ)}

/-! ## Clients -/

theorem Client.open?_agree (h : T.AgreesWith R Good U) (address : String) (kind : FaultKind)
    (name : String) (timeout : Option Float) :
    Agree R Good (Client.open? T address kind name timeout)
      (Client.open? U address kind name timeout) := by
  unfold Client.open?
  cases endpoint address kind name with
  | error fault => exact .pure _
  | ok base => exact h.connect.bind fun _ => .pure _

theorem Client.exchange_agree (h : T.AgreesWith R Good U) (c : Client) (method target : String)
    (parameter : Option Parameter) (body : Option String) :
    Agree R Good (c.exchange T method target parameter body)
      (c.exchange U method target parameter body) := by
  unfold Client.exchange
  match (targetUrl target parameter).bind (Request.make? method · body c.timeout) with
  | .error fault => exact .pure _
  | .ok request =>
      refine (h.send _ _).bind ?_
      rintro (fault | response)
      · exact .pure _
      · exact .pure _

namespace JobClient

variable (c : JobClient)

theorem send_agree (h : T.AgreesWith R Good U) (method target : String) (body : Option String) :
    Agree R Good (c.send T method target body) (c.send U method target body) := by
  refine (c.exchange_agree h _ _ _ _).bind ?_
  rintro (fault | answer)
  · exact .ite (.pure _) (.pure _)
  · exact .pure _

theorem submit_agree (h : T.AgreesWith R Good U) (config : JobConfig) :
    Agree R Good (c.submit T config) (c.submit U config) := by
  unfold submit
  cases Schema.LoadJobPayload.ofConfig config with
  | error report => exact .pure _
  | ok payload =>
      refine (c.send_agree h _ _ _).bind ?_
      rintro (fault | ⟨request, response⟩)
      · exact .pure _
      · exact .pure _

theorem poll_agree (h : T.AgreesWith R Good U) (job : Int) :
    Agree R Good (c.poll T job) (c.poll U job) := by
  refine (c.send_agree h _ _ _).bind ?_
  rintro (fault | ⟨request, response⟩)
  · exact .pure _
  · exact .pure _

end JobClient

namespace MetadataClient

variable (c : MetadataClient)

theorem ask_agree (h : T.AgreesWith R Good U) (target path : String) :
    Agree R Good (c.ask T target path) (c.ask U target path) := by
  refine (c.exchange_agree h _ _ _ _).bind ?_
  rintro (fault | answer)
  · exact .ite (.pure _) (.pure _)
  · exact .pure _

theorem stat_agree (h : T.AgreesWith R Good U) (path : String) :
    Agree R Good (c.stat T path) (c.stat U path) := by
  refine (c.ask_agree h _ _).bind ?_
  rintro (fault | ⟨request, response⟩)
  · exact .pure _
  · exact .pure _

theorem list_agree (h : T.AgreesWith R Good U) (path : String) :
    Agree R Good (c.list T path) (c.list U path) := by
  refine (c.ask_agree h _ _).bind ?_
  rintro (fault | ⟨request, response⟩)
  · exact .pure _
  · exact .pure _

end MetadataClient

end Http

/-! ## The command -/

namespace CommandLine

variable {T : Terminal (StateM σ)} {U : Terminal (StateM τ)} {V : Http.Transport (StateM σ)}
  {W : Http.Transport (StateM τ)}

/-- The environment of a load over HTTP. -/
def overHttp {m : Type → Type} [Monad m] (terminal : Terminal m) (transport : Http.Transport m)
    (threshold : LogThreshold) (settings : Settings) (client : Http.MetadataClient) :
    Environment m where
  jobs := Http.jobService transport settings.jobServiceEndpoint (some settings.requestTimeout)
  files := client.service transport
  report step := terminal.out step.line
  tell := terminal.tell threshold
  pause := terminal.pause

theorem overHttp_agree (h : T.AgreesWith R Good U) (h' : V.AgreesWith R Good W)
    (threshold : LogThreshold) (settings : Settings) (client : Http.MetadataClient) :
    (overHttp T V threshold settings client).AgreesWith R Good
      (overHttp U W threshold settings client) := by
  have hreport : ∀ step : Progress, Agree R Good (T.out step.line) (U.out step.line) :=
    fun step => h.out step.line
  have hlog : ∀ entry,
      Agree R Good (T.tell threshold (.log entry)) (U.tell threshold (.log entry)) :=
    fun entry => .ite (h.log entry) (.pure _)
  unfold overHttp Http.jobService
  cases Http.endpoint settings.jobServiceEndpoint .jobService "Job service" with
  | error fault =>
      exact ⟨.pure _, fun _ _ => .pure _, fun _ _ => .pure _, fun _ => .pure _,
        client.stat_agree h', client.list_agree h', hreport, hlog, fun _ => h.note _,
        fun _ => h.note _, h.pause⟩
  | ok base =>
      refine ⟨?_, ?_, ?_, ?_, client.stat_agree h', client.list_agree h', hreport, hlog,
        fun _ => h.note _, fun _ => h.note _, h.pause⟩
      · exact ((Http.Client.open?_agree h' _ _ _ _).bind fun _ => .pure _).bind fun _ => .pure _
      · exact fun _ config => (Http.JobClient.submit_agree _ h' config).bind fun _ => .pure _
      · exact fun _ job => (Http.JobClient.poll_agree _ h' job).bind fun _ => .pure _
      · exact fun _ => (h'.close _).bind fun _ => .pure _

/-- The load that an invocation asks for. -/
def loadRequest (settings : Settings) (invocation : Invocation) : LoadRequest where
  path := invocation.path
  replication := invocation.replication.getD settings.defaultReplication
  maxActiveJobs := some (invocation.activeJobs.getD settings.maxActiveJobs)

/-- Loading over HTTP is a load, between opening the client of the storage system and closing
it. -/
theorem loadOverHttp_eq {m : Type → Type} [Monad m] (terminal : Terminal m)
    (transport : Http.Transport m) (patience : Patience) (threshold : LogThreshold)
    (settings : Settings) (invocation : Invocation) :
    loadOverHttp terminal transport patience threshold settings invocation = (do
      match ← Http.MetadataClient.open? transport settings.metadataEndpoint
          (some settings.requestTimeout) with
      | .error fault => pure (.failed fault none)
      | .ok client => do
        let result ← load (overHttp terminal transport threshold settings client) patience
          settings.policy (loadRequest settings invocation)
        client.close transport
        pure result) :=
  rfl

theorem loadOverHttp_agree (h : T.AgreesWith R Good U) (h' : V.AgreesWith R Good W)
    (patience : Patience) (threshold : LogThreshold) (settings : Settings)
    (invocation : Invocation) :
    Agree R Good (loadOverHttp T V patience threshold settings invocation)
      (loadOverHttp U W patience threshold settings invocation) := by
  rw [loadOverHttp_eq, loadOverHttp_eq]
  refine Agree.bind ((Http.Client.open?_agree h' _ _ _ _).bind fun _ => .pure _) ?_
  rintro (fault | client)
  · exact .pure _
  · refine (load_agree (overHttp_agree h h' threshold settings client) _ _ _).bind fun _ => ?_
    exact (h'.close _).bind fun _ => .pure _

/-- **A command does the same at transports and terminals that agree.** -/
theorem runInvocation_agree (h : T.AgreesWith R Good U) (h' : V.AgreesWith R Good W)
    (patience : Patience) (environment : List (String × String)) (invocation : Invocation) :
    Agree R Good (runInvocation T V patience environment invocation)
      (runInvocation U W patience environment invocation) := by
  unfold runInvocation
  cases Settings.read { environment } with
  | error report => exact .pure _
  | ok settings =>
      dsimp only
      cases LogThreshold.ofName? (levelName settings invocation) with
      | none => exact .pure _
      | some threshold =>
          dsimp only
          refine (loadOverHttp_agree h h' _ _ _ _).bind ?_
          rintro (⟨completed, abandoned⟩ | ⟨fault, closing⟩ | -)
          · exact .pure _
          · exact Agree.bind (.ite ((h.err _).bind fun _ => .pure _) (.pure _)) fun _ => .pure _
          · exact .pure _

end CommandLine

end LoadDispatch
