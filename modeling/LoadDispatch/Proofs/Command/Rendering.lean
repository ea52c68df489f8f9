import LoadDispatch.Proofs.Http.Clients
import LoadDispatch.Proofs.Http.Inquiry
import LoadDispatch.Proofs.Session

/-!
# A load and what is seen of it over HTTP

What a load does over HTTP is seen as clients, requests and lines.  What it means, as sessions and
jobs and files, is not; and what is known of loads is known in those terms.  So the same load is run
a second time: `services` is the world that the services of a command make up, whose answers are
what the responses of its web mean, and `conversation` is the load in that world.

Each event of the conversation is seen as one event of the command, or as none (`Appears`), and the
whole conversation as these events in order (`Renders`).  That this is what a command does is an
agreement between two environments (`overHttp_renders`).  In the conversation every step can be
reported, so they agree as long as the output takes each line that is written to it (`CanTell`).
-/

namespace LoadDispatch

variable {ω α : Type}

/-- Connections to a web that are not recorded. -/
def Web.channel (w : Web ω) : Http.Transport (StateM ω) where
  connect := pure 0
  send client request := w.respond client request
  close _ := pure ()

/-- The world that two services make up, if they keep their state in one place. -/
def World.ofServices (jobs : JobService (StateM ω)) (files : MetadataService (StateM ω)) :
    World ω where
  connect _ s := ((jobs.connect s).1.map fun _ => (), (jobs.connect s).2)
  submit session config := jobs.submit session config
  poll session job := jobs.poll session job
  close session := jobs.close session
  stat path := files.stat path
  list path := files.list path

/-- The operation is one of the job service, and was refused with the fault. -/
def Event.RefusedWith (fault : Fault) : Event → Prop
  | .opened _ answer => answer = .error fault
  | .submitted _ _ answer => answer = .error fault
  | .polled _ _ answer => answer = .error fault
  | .closed _ answer => answer = .error fault
  | _ => False

/-- The step that a person is told of. -/
def Event.step? : Event → Option Progress
  | .told (.progress step) => some step
  | _ => none

namespace CommandLine

open Http

/-- The output takes the lines of the steps that a conversation reports. -/
def CanTell (outputs : Outputs) (conversation : List Event) : Prop :=
  ∀ step ∈ conversation.filterMap Event.step?, outputs.accept step.line = .ok ()

instance (outputs : Outputs) (conversation : List Event) :
    Decidable (CanTell outputs conversation) :=
  inferInstanceAs (Decidable (∀ step ∈ conversation.filterMap Event.step?, _))

theorem canTell_append {outputs : Outputs} {xs ys : List Event} :
    CanTell outputs (xs ++ ys) ↔ CanTell outputs xs ∧ CanTell outputs ys := by
  rw [CanTell, List.filterMap_append, List.forall_mem_append]
  rfl

/-- Where jobs are submitted, if the address is not refused. -/
def jobEndpoint (settings : Settings) : Except Fault String :=
  endpoint settings.jobServiceEndpoint .jobService "Job service"

/-- The services of a command, as a world. -/
def services (web : Web ω) (settings : Settings) (client : MetadataClient) : World ω :=
  .ofServices (jobService web.channel settings.jobServiceEndpoint (some settings.requestTimeout))
    (client.service web.channel)

/-- The load of a command in the world of its services.  Sessions are numbered on from the client of
the storage system. -/
def conversation (web : Web ω) (settings : Settings) (client : MetadataClient)
    (patience : Patience) (invocation : Invocation) (world : ω) : LoadResult × Desk ω :=
  load (services web settings client).environment patience settings.policy
    (loadRequest settings invocation) { world, sessions := client.number }

/-- The client of a session. -/
def jobClient (settings : Settings) (base : String) (session : Session) : JobClient :=
  ⟨{ base, timeout := some settings.requestTimeout, number := session.number }⟩

section Appearance

variable (outputs : Outputs) (settings : Settings) (threshold : LogThreshold)
  (client : MetadataClient)

/-- What a load asks the services, with the event that it is: the event shows what the answer
means. -/
inductive Puts : {α : Type} → (Except Fault α → Event) → Inquiry α → Prop where
  /-- The metadata of a path. -/
  | stat (path : String) : Puts (.statted path) (client.statQuery path)
  /-- The listing of a folder. -/
  | list (path : String) : Puts (.listed path) (client.listQuery path)
  /-- The submission of a job. -/
  | submit {base : String} (session : Session) (config : JobConfig) :
    jobEndpoint settings = .ok base →
    Puts (.submitted session config) ((jobClient settings base session).submission config)
  /-- The status of a job. -/
  | poll {base : String} (session : Session) (job : Int) : jobEndpoint settings = .ok base →
    Puts (.polled session job) ((jobClient settings base session).statusQuery job)

/-- How an event of the conversation is seen. -/
inductive Appears : Event → Option Event → Prop where
  /-- A session is a client. -/
  | opened {base : String} (session : Session) : jobEndpoint settings = .ok base →
    Appears (.opened session (.ok ())) (some (.connected session.number))
  /-- A question is a request. -/
  | asked {α : Type} {event : Except Fault α → Event} {q : Inquiry α} {request : Request}
      (answer : Except Fault Response) :
    Puts settings client event q → q.request = .ok request →
    Appears (event (q.meaning (heard request answer))) (some (.exchanged q.client request answer))
  /-- A question for which no request can be made is not seen. -/
  | unasked {α : Type} {event : Except Fault α → Event} {q : Inquiry α} {fault : Fault} :
    Puts settings client event q → q.request = .error fault →
    Appears (event (q.meaning (.error fault))) none
  /-- Closing the session closes the client. -/
  | closed (session : Session) :
    Appears (.closed session (.ok ())) (some (.disconnected session.number))
  /-- What is refused because of the address is not seen. -/
  | refused {e : Event} {fault : Fault} : jobEndpoint settings = .error fault →
    e.RefusedWith fault → Appears e none
  /-- A step is a line that the output takes. -/
  | printed (step : Progress) : outputs.accept step.line = .ok () →
    Appears (.told (.progress step)) (some (.printed (outputs.outText step.line) (.ok ())))
  /-- An entry of the log is seen if it is severe enough. -/
  | logged (entry : LogEntry) : threshold.severity ≤ entry.level.severity →
    Appears (.told (.log entry)) (some (.logged entry))
  /-- Otherwise it is not. -/
  | unlogged (entry : LogEntry) : ¬ threshold.severity ≤ entry.level.severity →
    Appears (.told (.log entry)) none
  /-- A pass begins. -/
  | pass (atOnce : Nat) : Appears (.told (.pass atOnce)) (some (.told (.pass atOnce)))
  /-- The number of attempts in flight. -/
  | inFlight (count : Nat) : Appears (.told (.inFlight count)) (some (.told (.inFlight count)))
  /-- A pause. -/
  | paused (seconds : Float) : Appears (.paused seconds) (some (.paused seconds))

/-- How a conversation is seen. -/
inductive Renders : List Event → List Event → Prop where
  /-- Nothing has happened. -/
  | nil : Renders [] []
  /-- One event, then the others. -/
  | cons {e : Event} {mark : Option Event} {es shown : List Event} :
    Appears outputs settings threshold client e mark → Renders es shown →
    Renders (e :: es) (mark.toList ++ shown)

end Appearance

section Renders

variable {outputs : Outputs} {settings : Settings} {threshold : LogThreshold}
  {client : MetadataClient} {es es' shown shown' : List Event} {e i : Event}

namespace Renders

theorem append (h : Renders outputs settings threshold client es shown)
    (h' : Renders outputs settings threshold client es' shown') :
    Renders outputs settings threshold client (es ++ es') (shown ++ shown') := by
  induction h with
  | nil => exact h'
  | cons happears _ ih =>
      rw [List.append_assoc]
      exact .cons happears ih

theorem single {mark : Option Event} (h : Appears outputs settings threshold client e mark) :
    Renders outputs settings threshold client [e] mark.toList := by
  simpa using cons h .nil

theorem split (h : Renders outputs settings threshold client (es ++ es') shown) :
    ∃ left right, Renders outputs settings threshold client es left ∧
      Renders outputs settings threshold client es' right ∧ shown = left ++ right := by
  induction es generalizing shown with
  | nil => exact ⟨[], shown, .nil, h, rfl⟩
  | cons e es ih =>
      cases h with
      | @cons _ mark _ _ happears hrest =>
          obtain ⟨left, right, hleft, hright, rfl⟩ := ih hrest
          exact ⟨_, right, .cons happears hleft, hright, (List.append_assoc ..).symm⟩

/-- Everything that is seen was an event of the conversation. -/
theorem exists_of_mem (h : Renders outputs settings threshold client es shown) (hi : i ∈ shown) :
    ∃ e ∈ es, Appears outputs settings threshold client e (some i) := by
  induction h with
  | nil => cases hi
  | cons happears _ ih =>
      rcases List.mem_append.mp hi with hi | hi
      · obtain rfl := Option.mem_toList.mp hi
        exact ⟨_, List.mem_cons_self, happears⟩
      · obtain ⟨e, he, h⟩ := ih hi
        exact ⟨e, List.mem_cons_of_mem _ he, h⟩

/-- Every event of the conversation is seen as it appears. -/
theorem exists_mark (h : Renders outputs settings threshold client es shown) (he : e ∈ es) :
    ∃ mark, Appears outputs settings threshold client e mark ∧ ∀ i ∈ mark, i ∈ shown := by
  induction h with
  | nil => cases he
  | @cons _ mark _ _ happears _ ih =>
      rcases List.mem_cons.mp he with rfl | he
      · exact ⟨mark, happears, fun i hi => List.mem_append_left _ (Option.mem_toList.mpr hi)⟩
      · obtain ⟨mark, happears, hshown⟩ := ih he
        exact ⟨mark, happears, fun i hi => List.mem_append_right _ (hshown i hi)⟩

/-- A part of the conversation is seen as the part of what is seen, if the two are chosen alike. -/
theorem filter (h : Renders outputs settings threshold client es shown) {f g : Event → Bool}
    (hfg : ∀ e ∈ es, ∀ i, Appears outputs settings threshold client e (some i) → f e = g i) :
    Renders outputs settings threshold client (es.filter f) (shown.filter g) := by
  induction h with
  | nil => exact .nil
  | @cons e mark es shown happears _ ih =>
      rw [List.forall_mem_cons] at hfg
      have hrest := ih hfg.2
      rw [List.filter_append, List.filter_cons]
      cases mark with
      | none =>
          split
          · exact (Renders.cons happears hrest :)
          · exact hrest
      | some i =>
          rw [hfg.1 i happears]
          show Renders _ _ _ _ _ (List.filter g [i] ++ _)
          rw [List.filter_singleton]
          cases g i with
          | true => exact (Renders.cons happears hrest :)
          | false => exact hrest

end Renders

end Renders

/-! ## The load of a command -/

/-- The desk of a command beside that of its conversation.  What was seen before the load is
`start`. -/
structure InStep (outputs : Outputs) (settings : Settings) (threshold : LogThreshold)
    (client : MetadataClient) (start : List Event) (seen said : Desk ω) : Prop where
  /-- The web is in the same state. -/
  world : seen.world = said.world
  /-- The next client and the next session get the same number. -/
  numbers : ∀ base, jobEndpoint settings = .ok base → seen.clients = said.sessions
  /-- What is seen is the conversation. -/
  events : ∃ shown, seen.events = start ++ shown ∧
    Renders outputs settings threshold client said.events shown

/-- Two computations keep the desks in step, as long as what is reported can be told. -/
abbrev KeepStep (outputs : Outputs) (settings : Settings) (threshold : LogThreshold)
    (client : MetadataClient) (start : List Event) (x y : Recorded ω α) : Prop :=
  Agree (InStep outputs settings threshold client start)
    (fun said => CanTell outputs said.events) x y

section Load

variable {web : Web ω} {outputs : Outputs} {settings : Settings} {threshold : LogThreshold}
  {client : MetadataClient} {start : List Event}

/-- It is enough to look at one event of the conversation. -/
theorem keepStep_of_appears {x y : Recorded ω α} {e : Desk ω → Event}
    (hy : ∀ said : Desk ω, (y said).2.events = said.events ++ [e said])
    (h : ∀ seen said : Desk ω, seen.world = said.world →
      (∀ base, jobEndpoint settings = .ok base → seen.clients = said.sessions) →
      CanTell outputs [e said] →
      ∃ mark, Appears outputs settings threshold client (e said) mark ∧
        (x seen).2.events = seen.events ++ mark.toList ∧
        (x seen).1 = (y said).1 ∧ (x seen).2.world = (y said).2.world ∧
        ∀ base, jobEndpoint settings = .ok base → (x seen).2.clients = (y said).2.sessions) :
    KeepStep outputs settings threshold client start x y := by
  refine ⟨fun said htell => ?_, ?_⟩
  · rw [hy said] at htell
    exact (canTell_append.mp htell).1
  · rintro seen said ⟨hworld, hnumbers, shown, hseen, hrenders⟩ htell
    rw [hy said] at htell
    obtain ⟨mark, happears, hx, hvalue, hworld', hnumbers'⟩ :=
      h seen said hworld hnumbers (canTell_append.mp htell).2
    refine ⟨hvalue, hworld', hnumbers', shown ++ mark.toList, ?_, ?_⟩
    · rw [hx, hseen, List.append_assoc]
    · rw [hy said]
      exact hrenders.append (.single happears)

variable (web outputs threshold client start) in
/-- A question is put to the web in the same way, whether it is recorded as a request or as what it
means. -/
theorem ask_keepStep {event : Except Fault α → Event} {q : Inquiry α}
    (hputs : Puts settings client event q) :
    KeepStep outputs settings threshold client start (q.ask web.unguarded)
      (consult (q.ask web.channel) event) := by
  refine keepStep_of_appears (fun _ => Desk.events_write _ _) fun seen said hworld hnumbers _ => ?_
  unfold Inquiry.ask
  match hrequest : q.request with
  | .error fault =>
      exact ⟨none, .unasked hputs hrequest, (List.append_nil _).symm, rfl, hworld, hnumbers⟩
  | .ok request =>
      refine ⟨_, .asked (web.respond q.client request said.world).1 hputs hrequest, ?_, ?_, ?_,
        hnumbers⟩
      · rw [← hworld]
        exact Desk.events_write _ _
      · show q.meaning (heard request (web.respond q.client request seen.world).1) =
          q.meaning (heard request (web.respond q.client request said.world).1)
        rw [hworld]
      · show (web.respond q.client request seen.world).2 =
          (web.respond q.client request said.world).2
        rw [hworld]

/-- A step is reported as a line. -/
theorem report_keepStep (step : Progress) :
    KeepStep outputs settings threshold client start ((Desk.terminal outputs).out step.line)
      (do
        record (ω := ω) (.told (.progress step))
        pure (.ok ())) := by
  refine keepStep_of_appears (fun _ => Desk.events_write _ _)
    fun seen said hworld hnumbers htell => ?_
  have haccept : outputs.accept step.line = .ok () := htell step (by simp [Event.step?])
  refine ⟨_, .printed step haccept, ?_, haccept, hworld, hnumbers⟩
  rw [← haccept]
  exact Desk.events_write _ _

/-- An entry of the log is written if it is severe enough. -/
theorem log_keepStep (entry : LogEntry) :
    KeepStep outputs settings threshold client start
      ((Desk.terminal outputs).tell threshold (.log entry))
      (record (ω := ω) (.told (.log entry))) := by
  refine keepStep_of_appears (fun _ => Desk.events_write _ _) fun seen said hworld hnumbers _ => ?_
  by_cases hsevere : threshold.severity ≤ entry.level.severity
  · refine ⟨_, .logged entry hsevere, ?_, ?_, ?_, ?_⟩ <;>
      simp only [Terminal.tell, if_pos hsevere]
    · exact Desk.events_write _ _
    · exact hworld
    · exact hnumbers
  · refine ⟨none, .unlogged entry hsevere, ?_, ?_, ?_, ?_⟩ <;>
      simp only [Terminal.tell, if_neg hsevere]
    · exact (List.append_nil _).symm
    · exact hworld
    · exact hnumbers

/-- What is refused because of the address changes nothing and is not seen. -/
theorem refused_keepStep {fault : Fault} {event : Except Fault α → Event}
    (haddress : jobEndpoint settings = .error fault)
    (hrefused : (event (.error fault)).RefusedWith fault) :
    KeepStep outputs settings threshold client start
      (pure (.error fault) : Recorded ω (Except Fault α))
      (consult (fun world => (.error fault, world)) event) :=
  keepStep_of_appears (fun _ => Desk.events_write _ _) fun _ _ hworld hnumbers _ =>
    ⟨none, .refused haddress hrefused, (List.append_nil _).symm, rfl, hworld, hnumbers⟩

/-- What is written into the journal in the same way is seen as it is. -/
theorem record_keepStep {e : Event} (h : Appears outputs settings threshold client e (some e)) :
    KeepStep outputs settings threshold client start (record (ω := ω) e) (record e) :=
  keepStep_of_appears (fun _ => Desk.events_write _ _) fun _ _ hworld hnumbers _ =>
    ⟨_, h, Desk.events_write _ _, rfl, hworld, hnumbers⟩

variable (web outputs settings threshold client start) in
/-- **The environment of a load over HTTP does what the conversation shows.** -/
theorem overHttp_renders :
    (overHttp (Desk.terminal outputs) web.unguarded threshold settings client).AgreesWith
      (InStep outputs settings threshold client start) (fun said => CanTell outputs said.events)
      (services web settings client).environment := by
  have hstat : ∀ path, KeepStep outputs settings threshold client start
      (client.stat web.unguarded path)
      (consult (client.stat web.channel path) (.statted path)) := by
    intro path
    rw [client.stat_eq, client.stat_eq]
    exact ask_keepStep web outputs threshold client start (.stat path)
  have hlist : ∀ path, KeepStep outputs settings threshold client start
      (client.list web.unguarded path)
      (consult (client.list web.channel path) (.listed path)) := by
    intro path
    rw [client.list_eq, client.list_eq]
    exact ask_keepStep web outputs threshold client start (.list path)
  unfold overHttp services World.ofServices jobService
  cases haddress : endpoint settings.jobServiceEndpoint .jobService "Job service" with
  | error fault =>
      have hrefused : ∀ base, jobEndpoint settings ≠ .ok base := by
        intro base hbase
        rw [jobEndpoint, haddress] at hbase
        cases hbase
      refine ⟨?_, fun session config => ?_, fun session job => ?_, fun session => ?_, hstat, hlist,
        report_keepStep, log_keepStep, fun _ => record_keepStep (.pass _),
        fun _ => record_keepStep (.inFlight _), fun _ => record_keepStep (.paused _)⟩
      · exact keepStep_of_appears (fun _ => Desk.events_write _ _) fun _ _ hworld _ _ =>
          ⟨none, .refused haddress rfl, (List.append_nil _).symm, rfl, hworld,
            fun base hbase => absurd hbase (hrefused base)⟩
      · exact refused_keepStep haddress rfl
      · exact refused_keepStep haddress rfl
      · exact refused_keepStep haddress rfl
  | ok base =>
      refine ⟨?_, fun session config => ?_, fun session job => ?_, fun session => ?_, hstat, hlist,
        report_keepStep, log_keepStep, fun _ => record_keepStep (.pass _),
        fun _ => record_keepStep (.inFlight _), fun _ => record_keepStep (.paused _)⟩
      · unfold JobClient.open? Client.open?
        rw [haddress]
        refine keepStep_of_appears (fun _ => Desk.events_write _ _)
          fun seen said hworld hnumbers _ => ?_
        have hnumber : seen.clients = said.sessions := hnumbers base haddress
        refine ⟨_, .opened ⟨said.sessions + 1⟩ haddress, ?_, ?_, hworld, fun base hbase => ?_⟩
        · rw [← hnumber]
          exact Desk.events_write _ _
        · show Except.ok (⟨seen.clients + 1⟩ : Session) = .ok ⟨said.sessions + 1⟩
          rw [hnumber]
        · exact congrArg (· + 1) hnumber
      · have h := ask_keepStep web outputs threshold client start
          (.submit session config haddress)
        rw [← JobClient.submit_eq, ← JobClient.submit_eq] at h
        exact h
      · have h := ask_keepStep web outputs threshold client start
          (.poll session job haddress)
        rw [← JobClient.poll_eq, ← JobClient.poll_eq] at h
        exact h
      · exact keepStep_of_appears (fun _ => Desk.events_write _ _) fun _ _ hworld hnumbers _ =>
          ⟨_, .closed session, Desk.events_write _ _, rfl, hworld, hnumbers⟩

end Load

end CommandLine

end LoadDispatch
