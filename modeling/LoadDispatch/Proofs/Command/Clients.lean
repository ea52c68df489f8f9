import LoadDispatch.Proofs.Command.Rendering
import LoadDispatch.Proofs.Load.Sessions

/-!
# Clients and lines of a command

What is known of the sessions of a conversation is said here of what is seen of it.  A session is a
client, so a session that has lived is a client that has (`Renders.clientLife`); the client of the
storage system sends requests only; and the lines of the output are the steps that a person is told
of.
-/

namespace LoadDispatch

/-- The number of a client that is opened. -/
def Event.connected? : Event → Option Nat
  | .connected client => some client
  | _ => none

/-- The line that is written to the error output. -/
def Event.complained? : Event → Option String
  | .complained line => some line
  | _ => none

namespace CommandLine

open Http

variable {outputs : Outputs} {settings : Settings} {threshold : LogThreshold}
  {client : MetadataClient} {es shown : List Event} {e i : Event} {s : Session}

/-- Two kinds of events correspond if each event of the one appears as one of the other. -/
theorem Renders.filterMap {α : Type} (h : Renders outputs settings threshold client es shown)
    {f g : Event → Option α}
    (hfg : ∀ e mark, Appears outputs settings threshold client e mark → mark.bind g = f e) :
    shown.filterMap g = es.filterMap f := by
  induction h with
  | nil => rfl
  | @cons e mark es shown happears _ ih =>
      have hone : mark.toList.filterMap g = (f e).toList := by
        rw [← hfg e mark happears]
        cases mark with
        | none => rfl
        | some i => cases h : g i <;> simp [h]
      rw [List.filterMap_append, hone, ih, List.filterMap_cons]
      cases f e <;> rfl

/-- The steps are the output. -/
theorem Renders.output (h : Renders outputs settings threshold client es shown) (usage : String) :
    shown.filterMap (Event.output? usage) =
      (es.filterMap Event.step?).map fun step => outputs.outText step.line := by
  rw [List.map_filterMap]
  refine h.filterMap fun e mark happears => ?_
  cases happears with
  | asked _ hputs | unasked hputs => cases hputs <;> rfl
  | refused _ hrefused =>
      cases e with
      | told => exact hrefused.elim
      | _ => rfl
  | _ => rfl

/-- A load writes nothing to the error output. -/
theorem Renders.complained (h : Renders outputs settings threshold client es shown) :
    shown.filterMap Event.complained? = [] := by
  have hnone : ∀ e mark, Appears outputs settings threshold client e mark →
      mark.bind Event.complained? = none := by
    intro e mark happears
    cases happears <;> rfl
  rw [h.filterMap hnone]
  exact List.filterMap_eq_nil_iff.mpr fun _ _ => rfl

/-- The sessions that were opened are the clients that were. -/
theorem Renders.connected (h : Renders outputs settings threshold client es shown) :
    shown.filterMap Event.connected? = (openedIn es).map (·.number) := by
  rw [openedIn, List.map_filterMap]
  refine h.filterMap fun e mark happears => ?_
  cases happears with
  | asked _ hputs | unasked hputs => cases hputs <;> rfl
  | refused _ hrefused =>
      cases e with
      | opened session answer =>
          cases answer with
          | ok => cases hrefused
          | error => rfl
      | _ => rfl
  | _ => rfl

/-! ## The life of a client -/

/-- What is seen of a session is of its client. -/
theorem Appears.client?_iff (h : Appears outputs settings threshold client e (some i))
    (hs : s.number ≠ client.number) :
    (e.opened? = some s ∨ e.callOn? = some s) ↔ i.client? = some s.number := by
  have hsession : ∀ t : Session, t = s ↔ t.number = s.number :=
    fun t => ⟨congrArg _, fun h => by cases t; cases s; cases h; rfl⟩
  cases h with
  | opened t | closed t => simp [Event.opened?, Event.client?, hsession]
  | asked _ hputs =>
      cases hputs with
      | stat | list =>
          simpa [Event.opened?, Event.callOn?, Event.client?, MetadataClient.statQuery,
            MetadataClient.listQuery] using Ne.symm hs
      | submit t | poll t =>
          simp [Event.opened?, Event.callOn?, Event.client?, JobClient.submission,
            JobClient.statusQuery, jobClient, hsession]
  | printed | logged | pass | inFlight | paused =>
      simp [Event.opened?, Event.callOn?, Event.client?]

/-- A call that is no closing is seen as a request. -/
theorem Appears.isExchange (h : Appears outputs settings threshold client e (some i))
    (hcall : e.callOn? = some s) (hclosing : e.isClosing = false) : i.isExchange = true := by
  cases h with
  | asked => rfl
  | closed => cases hclosing
  | opened | printed | logged | pass | inFlight | paused => cases hcall

/-- A session is opened if the address is not refused. -/
theorem Appears.of_opened {answer : Except Fault Unit} {mark : Option Event}
    (h : Appears outputs settings threshold client (.opened s answer) mark) :
    (∃ base, jobEndpoint settings = .ok base ∧ answer = .ok () ∧
        mark = some (.connected s.number)) ∨
      ∃ fault, jobEndpoint settings = .error fault ∧ answer = .error fault ∧ mark = none := by
  generalize he : Event.opened s answer = e at h
  cases h with
  | opened _ hbase =>
      cases he
      exact .inl ⟨_, hbase, rfl, rfl⟩
  | refused hfault hrefused =>
      subst he
      exact .inr ⟨_, hfault, hrefused, rfl⟩
  | asked _ hputs | unasked hputs => cases hputs <;> cases he
  | _ => cases he

/-- A session is closed if the address is not refused. -/
theorem Appears.of_closed {answer : Except Fault Unit} {mark : Option Event}
    (h : Appears outputs settings threshold client (.closed s answer) mark) :
    (answer = .ok () ∧ mark = some (.disconnected s.number)) ∨
      ∃ fault, jobEndpoint settings = .error fault ∧ answer = .error fault ∧ mark = none := by
  generalize he : Event.closed s answer = e at h
  cases h with
  | closed =>
      cases he
      exact .inl ⟨rfl, rfl⟩
  | refused hfault hrefused =>
      subst he
      exact .inr ⟨_, hfault, hrefused, rfl⟩
  | asked _ hputs | unasked hputs => cases hputs <;> cases he
  | _ => cases he

/-- **A session that has lived is a client that has**, and one that is on its way is a client that
is. -/
theorem Renders.clientLife (h : Renders outputs settings threshold client es shown)
    (hs : s.number ≠ client.number) {talk last : List Event}
    (hlife : onSession s es = .opened s (.ok ()) :: (talk ++ last))
    (htalk : ∀ e ∈ talk, e.isClosing = false ∧ e.callOn? = some s)
    (hlast : last = [] ∨ ∃ answer, last = [.closed s answer]) :
    ∃ life, ClientLife s.number life ∧ onClient s.number shown <+: life ∧
      (last ≠ [] → onClient s.number shown = life) := by
  have hpart :
      Renders outputs settings threshold client (onSession s es) (onClient s.number shown) :=
    h.filter fun e _ i happears => decide_eq_decide.mpr (happears.client?_iff hs)
  rw [hlife] at hpart
  generalize onClient s.number shown = seen at hpart
  cases hpart with
  | cons hopened hrest =>
      obtain ⟨left, right, hleft, hright, rfl⟩ := hrest.split
      have hexchanges : ∀ i ∈ left, i.isExchange = true := by
        intro i hi
        obtain ⟨e, he, happears⟩ := hleft.exists_of_mem hi
        exact happears.isExchange (htalk e he).2 (htalk e he).1
      -- A session that was opened is at an address that is not refused.
      obtain ⟨base, hbase, -, rfl⟩ | ⟨_, -, hopen, -⟩ := hopened.of_opened
      · refine ⟨.connected s.number :: (left ++ [.disconnected s.number]),
          ⟨left, rfl, hexchanges⟩, ?_⟩
        obtain rfl | ⟨answer, rfl⟩ := hlast
        · cases hright
          exact ⟨by simp, fun hne => absurd rfl hne⟩
        · cases hright with
          | cons hclosed hnil =>
              cases hnil
              obtain ⟨-, rfl⟩ | ⟨_, hrefused, -⟩ := hclosed.of_closed
              · exact ⟨by simp, fun _ => by simp⟩
              · rw [hbase] at hrefused
                cases hrefused
      · cases hopen

/-- Whoever has no session has no client. -/
theorem Renders.onClient_eq_nil (h : Renders outputs settings threshold client es shown)
    (hknown : ∀ e ∈ es, ∀ s, e.callOn? = some s → s ∈ openedIn es) {n : Nat}
    (hn : n ≠ client.number) (hnone : ⟨n⟩ ∉ openedIn es) : onClient n shown = [] := by
  refine List.filter_eq_nil_iff.mpr fun i hi hclient => hnone ?_
  obtain ⟨e, he, happears⟩ := h.exists_of_mem hi
  have hn' : (⟨n⟩ : Session).number ≠ client.number := hn
  rcases (happears.client?_iff hn').mpr (by simpa using hclient) with hopened | hcall
  · exact List.mem_filterMap.mpr ⟨e, he, hopened⟩
  · exact hknown e he _ hcall

/-- The client of the storage system sends requests, and nothing else happens on it during a
load. -/
theorem Renders.own_exchanges (h : Renders outputs settings threshold client es shown)
    (hknown : ∀ e ∈ es, ∀ s, e.callOn? = some s → s ∈ openedIn es)
    (hnumbers : ∀ s ∈ openedIn es, s.number ≠ client.number) :
    ∀ i ∈ onClient client.number shown, i.isExchange = true := by
  intro i hi
  obtain ⟨hi, hclient⟩ := List.mem_filter.mp hi
  rw [decide_eq_true_eq] at hclient
  obtain ⟨e, he, happears⟩ := h.exists_of_mem hi
  generalize hmark : some i = mark at happears
  cases happears with
  | asked =>
      cases hmark
      rfl
  | opened s =>
      cases hmark
      have hs : s ∈ openedIn es := List.mem_filterMap.mpr ⟨_, he, rfl⟩
      exact absurd (Option.some.inj hclient) (hnumbers s hs)
  | closed s =>
      cases hmark
      exact absurd (Option.some.inj hclient) (hnumbers s (hknown _ he s rfl))
  | printed | logged | pass | inFlight | paused =>
      cases hmark
      cases hclient
  | unasked | refused | unlogged => cases hmark

end CommandLine

end LoadDispatch
