import LoadDispatch.Proofs.Command.Clients
import LoadDispatch.Proofs.Command.Validated
import LoadDispatch.Proofs.Load.Faults

/-!
# The faults of a command

What may go wrong in a command is a matter of its single requests.  Each request that its load calls
for can be made (`CanAsk`) if its URL is accepted and its body has bytes, and each request that is
sent may end well (`EndsWell`).  If all of them do, then everything that the services are asked
fails, if it does, with a fault that a load reports as its own (`Renders.failsWithin`), and with one
of the job service only if the address of the job service is refused: all others of this kind are
absorbed.
-/

namespace LoadDispatch

/-- A request that was sent has ended well. -/
def Event.EndsWell : Event → Prop
  | .exchanged _ request answer => Http.EndsWell request answer
  | _ => True

instance : DecidablePred Event.EndsWell
  | .exchanged _ request answer => inferInstanceAs (Decidable (Http.EndsWell request answer))
  | .opened .. | .submitted .. | .polled .. | .closed .. | .statted .. | .listed .. | .told _
  | .paused _ | .connected _ | .disconnected _ | .printed .. | .complained _ | .logged _
  | .helped => inferInstanceAs (Decidable True)

namespace CommandLine

open Http

/-- The request that an event of a conversation calls for. -/
def requestFor (settings : Settings) (client : MetadataClient) :
    Event → Option (Except Fault Request)
  | .statted path _ => some (client.statQuery path).request
  | .listed path _ => some (client.listQuery path).request
  | .submitted session config _ =>
    match jobEndpoint settings with
    | .error _ => none
    | .ok base =>
      let c := jobClient settings base session
      let payload : Schema.LoadJobPayload :=
        { filePath := config.path, replication := config.replication }
      some (c.request? "POST" c.submissionTarget none (some (submissionBody payload)))
  | .polled session job _ =>
    match jobEndpoint settings with
    | .error _ => none
    | .ok base => some ((jobClient settings base session).statusQuery job).request
  | _ => none

/-- Each request that a conversation calls for can be made. -/
def CanAsk (settings : Settings) (client : MetadataClient) (conversation : List Event) : Prop :=
  ∀ e ∈ conversation, ∀ fault, requestFor settings client e ≠ some (.error fault)

instance (settings : Settings) (client : MetadataClient) (conversation : List Event) :
    Decidable (CanAsk settings client conversation) :=
  decidable_of_iff (∀ e ∈ conversation, (requestFor settings client e).all Except.isOk = true) <| by
    refine forall₂_congr fun e _ => ?_
    rcases requestFor settings client e with _ | fault | request <;>
      simp [Except.isOk, Except.toBool]

/-- A fault that a command may end with: it is reported, and it is the job service's only if the
address of the job service is refused. -/
def IsExpected (settings : Settings) (fault : Fault) : Prop :=
  fault.kind.isReported = true ∧
    (fault.kind = .jobService → jobEndpoint settings = .error fault)

section Faults

variable {outputs : Outputs} {settings : Settings} {threshold : LogThreshold}
  {client : MetadataClient} {es shown : List Event} {e : Event} {fault : Fault}

theorem kind_of_endpoint {address name : String} {kind : FaultKind}
    (h : endpoint address kind name = .error fault) : fault.kind = kind := by
  unfold endpoint at h
  dsimp only at h
  split at h
  · cases h
    rfl
  · cases h

theorem isExpected_of_refused (h : jobEndpoint settings = .error fault) :
    IsExpected settings fault := by
  refine ⟨?_, fun _ => h⟩
  rw [kind_of_endpoint h]
  rfl

/-- What was refused because of the address is as expected. -/
theorem failsWithin_of_refused (h : jobEndpoint settings = .error fault)
    (hrefused : e.RefusedWith fault) :
    e.FailsWithin (IsExpected settings) ∧ e.SubmitsAbsorbed := by
  have hexpected := isExpected_of_refused h
  have habsorbed : fault.isJobService = true := by
    rw [Fault.isJobService, kind_of_endpoint h]
    rfl
  cases e with
  | opened _ answer | closed _ answer =>
      cases hrefused
      exact ⟨hexpected, trivial⟩
  | submitted _ _ answer =>
      cases hrefused
      exact ⟨fun _ => hexpected, habsorbed⟩
  | polled _ _ answer =>
      cases hrefused
      exact ⟨fun _ => hexpected, trivial⟩
  | _ => exact hrefused.elim

/-- A question that is asked, and whose request ends well, fails as expected. -/
theorem Puts.failsWithin {α : Type} {event : Except Fault α → Event} {q : Inquiry α}
    (h : Puts settings client event q) {request : Request} {answer : Except Fault Response}
    (hwell : EndsWell request answer) :
    (event (q.meaning (heard request answer))).FailsWithin (IsExpected settings) ∧
      (event (q.meaning (heard request answer))).SubmitsAbsorbed := by
  have hpath : ∀ fault, IsOfPath fault → IsExpected settings fault := fun fault hpath =>
    ⟨hpath.reported.1, fun hkind => absurd hkind hpath.reported.2⟩
  cases h with
  | stat path =>
      cases hmeaning : (client.statQuery path).meaning (heard request answer) with
      | ok => exact ⟨trivial, trivial⟩
      | error fault => exact ⟨hpath _ (hwell.stat_error hmeaning), trivial⟩
  | list path =>
      cases hmeaning : (client.listQuery path).meaning (heard request answer) with
      | ok => exact ⟨trivial, trivial⟩
      | error fault => exact ⟨hpath _ (hwell.list_error hmeaning), trivial⟩
  | @submit base session config =>
      cases hmeaning : ((jobClient settings base session).submission config).meaning
          (heard request answer) with
      | ok => exact ⟨trivial, trivial⟩
      | error fault =>
          have habsorbed := hwell.submission_error hmeaning
          refine ⟨fun hfault => ?_, habsorbed⟩
          rw [habsorbed] at hfault
          cases hfault
  | @poll base session job =>
      cases hmeaning : ((jobClient settings base session).statusQuery job).meaning
          (heard request answer) with
      | ok status =>
          obtain ⟨known, rfl⟩ := statusQuery_known hmeaning
          exact ⟨trivial, trivial⟩
      | error fault =>
          refine ⟨fun hfault => ?_, trivial⟩
          rcases hwell.statusQuery_error hmeaning with habsorbed | hkind
          · rw [habsorbed] at hfault
            cases hfault
          · rw [IsExpected, hkind]
            exact ⟨rfl, by simp⟩

/-- What cannot be asked is called for. -/
theorem Puts.requestFor_eq {α : Type} {event : Except Fault α → Event} {q : Inquiry α}
    (h : Puts settings client event q) (answer : Except Fault α)
    (hreplication : ∀ session config reply, event answer = .submitted session config reply →
      1 ≤ config.replication) :
    requestFor settings client (event answer) = some q.request := by
  cases h with
  | stat | list => rfl
  | submit session config hbase =>
      have hpayload := Schema.LoadJobPayload.ofConfig_eq (hreplication session config answer rfl)
      simp only [requestFor, hbase, JobClient.submission, hpayload]
  | poll session job hbase => simp only [requestFor, hbase]

/-- **Everything in a conversation fails as expected**, if its requests can be made and end well. -/
theorem Renders.failsWithin (h : Renders outputs settings threshold client es shown)
    (hcan : CanAsk settings client es)
    (hwell : ∀ e ∈ shown, e.EndsWell)
    (hreplication : ∀ session config answer, .submitted session config answer ∈ es →
      1 ≤ config.replication) :
    ∀ e ∈ es, e.FailsWithin (IsExpected settings) ∧ e.SubmitsAbsorbed := by
  intro e he
  obtain ⟨mark, happears, hshown⟩ := h.exists_mark he
  cases happears with
  | asked answer hputs => exact hputs.failsWithin (hwell _ (hshown _ rfl))
  | @unasked _ event q fault hputs hrequest =>
      have hcalled := hputs.requestFor_eq (q.meaning (.error fault))
        fun session config reply heq => hreplication session config reply (heq ▸ he)
      rw [hrequest] at hcalled
      exact absurd hcalled (hcan _ he fault)
  | refused hfault hrefused => exact failsWithin_of_refused hfault hrefused
  | _ => exact ⟨trivial, trivial⟩

end Faults

end CommandLine

end LoadDispatch
