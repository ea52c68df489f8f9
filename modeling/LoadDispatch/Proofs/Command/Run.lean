import LoadDispatch.Proofs.Command.Faults

/-!
# The run of a command

A command does what its conversation says, and then it settles what the conversation has come to.
In the conversation a fault comes up only in an operation (`conversation_ends`), and each session
lives once; so each client of the command lives once, too (`lives_around`).

All this is first about connections that check nothing, where everything is seen as it appears
(`runInvocation_renders`), if the output takes the lines.  That the checks make no difference
follows from the lives of the clients (`runInvocation_transport`).
-/

namespace LoadDispatch

@[simp] theorem Desk.eventsSince_zero {ω : Type} (d : Desk ω) : d.eventsSince 0 = d.events := by
  simp [Desk.eventsSince, Desk.events]

namespace CommandLine

open Http

/-- Where metadata are asked for, if the address is not refused. -/
def metadataEndpoint (settings : Settings) : Except Fault String :=
  endpoint settings.metadataEndpoint .metadata "Metadata"

/-- The client of the storage system, which is the first one of a command. -/
def metadataClient (settings : Settings) (base : String) : MetadataClient :=
  ⟨{ base, timeout := some settings.requestTimeout, number := 1 }⟩

/-! ## The conversation of a command -/

section Conversation

variable {ω : Type} {web : Web ω} {outputs : Outputs} {settings : Settings}
  {threshold : LogThreshold} {client : MetadataClient} {patience : Patience}
  {invocation : Invocation} {world : ω} {limits : PoolLimits}

/-- A conversation begins with an empty journal. -/
theorem conversation_events :
    (conversation web settings client patience invocation world).2.events =
      (load (services web settings client).environment patience settings.policy
        (loadRequest settings invocation) { world, sessions := client.number }).2.eventsSince
          ({ world, sessions := client.number } : Desk ω).journal.length :=
  (Desk.eventsSince_zero _).symm

variable (web client patience world) in
/-- The sessions of a conversation have numbers behind that of the client of the storage system. -/
theorem conversation_numbers
    (hlimits : settings.policy.limits? (loadRequest settings invocation) = .ok limits) :
    ∀ s ∈ openedIn (conversation web settings client patience invocation world).2.events,
      s.number ≠ client.number := by
  intro s hs
  have hrecords : Records (services web settings client) { world, sessions := client.number }
      (conversation web settings client patience invocation world).2.events
      (conversation web settings client patience invocation world).2 := by
    rw [conversation_events]
    exact load_records hlimits
  have hmem := List.mem_map_of_mem (f := (·.number))
    ((openedIn_sublist_askedIn _).subset hs)
  rw [hrecords.numbers] at hmem
  have hrange := (List.mem_range'_1.mp hmem).1
  exact Nat.ne_of_gt hrange

/-- **What is seen of a conversation is orderly**, and when it is over each client of a session has
lived. -/
theorem Renders.orderly {shown : List Event}
    (hlimits : settings.policy.limits? (loadRequest settings invocation) = .ok limits)
    (h : Renders outputs settings threshold client
      (conversation web settings client patience invocation world).2.events shown) :
    (∀ i ∈ onClient client.number shown, i.isExchange = true) ∧
    (∀ n ≠ client.number, n ∉ shown.filterMap Event.connected? → onClient n shown = []) ∧
    ∀ n ∈ shown.filterMap Event.connected?, n ≠ client.number ∧
      ∃ life, ClientLife n life ∧ onClient n shown <+: life ∧
        ((conversation web settings client patience invocation world).1 ≠ .unfinished →
          onClient n shown = life) := by
  obtain ⟨hlive, hknown⟩ := load_sessions_live (services web settings client) patience
    { world, sessions := client.number } hlimits
  rw [← conversation_events] at hlive hknown
  have hnumbers := conversation_numbers web client patience world hlimits
  rw [h.connected]
  refine ⟨h.own_exchanges hknown hnumbers, fun n hn hnone => ?_, fun n hn => ?_⟩
  · exact h.onClient_eq_nil hknown hn fun hmem => hnone (List.mem_map.mpr ⟨_, hmem, rfl⟩)
  · obtain ⟨s, hs, rfl⟩ := List.mem_map.mp hn
    obtain ⟨talk, last, hlife, htalk, hlast⟩ := hlive s hs
    refine ⟨hnumbers s hs, ?_⟩
    obtain ⟨life, hclient, hprefix, hwhole⟩ :=
      h.clientLife (hnumbers s hs) hlife htalk (hlast.imp And.left id)
    refine ⟨life, hclient, hprefix, fun hover => hwhole ?_⟩
    obtain ⟨-, hunfinished⟩ | ⟨answer, rfl⟩ := hlast
    · exact absurd hunfinished hover
    · simp

/-- The walk and the draining of a conversation return, or a fault that is as expected has ended
them, or the patience has run out; and the load has ended accordingly. -/
theorem conversation_ends
    (hlimits : settings.policy.limits? (loadRequest settings invocation) = .ok limits)
    (hfails : ∀ e ∈ (conversation web settings client patience invocation world).2.events,
      e.FailsWithin (IsExpected settings)) :
    let inside := (({ limits } : Pool).loadAll (services web settings client).environment patience
      (loadRequest settings invocation) { world, sessions := client.number }).1.1
    let result := (conversation web settings client patience invocation world).1
    (inside = .returned () ∧ ∃ completed abandoned, result = .finished completed abandoned) ∨
    (∃ fault closing, inside = .raised fault ∧ result = .failed fault closing ∧
      IsExpected settings fault) ∨
    result = .unfinished := by
  intro inside result
  obtain ⟨⟨⟨outcome, p⟩, d₁⟩, hinside⟩ :
      ∃ r, ({ limits } : Pool).loadAll (services web settings client).environment patience
        (loadRequest settings invocation) { world, sessions := client.number } = r := ⟨_, rfl⟩
  have houtcome : inside = outcome := congrArg (·.1.1) hinside
  rw [houtcome]
  obtain ⟨hrecords, hloads, -⟩ := Pool.loadAll_run hinside
  match outcome with
  | .unfinished => exact .inr (.inr (congrArg Prod.fst (load_of_unfinished hlimits hinside)))
  | .returned () =>
      obtain ⟨_, hwhole, -⟩ := load_of_returned hlimits hinside hloads.inFlight_eq
      exact .inl ⟨rfl, _, _, congrArg Prod.fst hwhole⟩
  | .raised fault =>
      obtain ⟨_, _, _, events, hwhole, hrecords', -⟩ := load_of_raised hlimits hinside
      refine .inr (.inl ⟨fault, _, rfl, congrArg Prod.fst hwhole, ?_⟩)
      rw [conversation_events, hwhole, (hrecords.append hrecords').eventsSince] at hfails
      have hheld : ({ limits } : Pool).Held := by
        rintro a ⟨⟩
      exact hloads.raised (.initial limits) hheld (by simpa using hrecords.nodup_openedIn)
        (List.forall_mem_append.mp hfails).1

end Conversation

/-! ## The run of a command -/

section Run

variable {ω : Type} (web : Web ω) (outputs : Outputs) (patience : Patience)
  (threshold : LogThreshold) (settings : Settings) (invocation : Invocation) (world : ω)

/-- What the walk and the draining of a command come to, on given connections: they follow the
opening of the client of the storage system. -/
def walkAndDrain (transport : Transport (StateM (Desk ω))) (base : String) (limits : PoolLimits) :
    Outcome Unit :=
  (({ limits } : Pool).loadAll
    (overHttp (Desk.terminal outputs) transport threshold settings (metadataClient settings base))
    patience (loadRequest settings invocation) (transport.connect { world }).2).1.1

variable {web outputs patience threshold settings invocation world} {base : String}

/-- At an address that is refused nothing is loaded. -/
theorem loadOverHttp_of_refused {transport : Transport (StateM (Desk ω))} {fault : Fault}
    (h : metadataEndpoint settings = .error fault) :
    loadOverHttp (Desk.terminal outputs) transport patience threshold settings invocation
        { world } = (.failed fault none, { world }) := by
  rw [loadOverHttp_eq]
  unfold MetadataClient.open? Client.open?
  rw [show endpoint settings.metadataEndpoint .metadata "Metadata" = .error fault from h]
  rfl

/-- Otherwise the load goes between opening a client and closing it. -/
theorem loadOverHttp_of_accepted {transport : Transport (StateM (Desk ω))}
    (hconnect : ∀ d, (transport.connect d).1 = d.clients + 1)
    (h : metadataEndpoint settings = .ok base) {result : LoadResult} {d₁ : Desk ω}
    (hload : load (overHttp (Desk.terminal outputs) transport threshold settings
      (metadataClient settings base)) patience settings.policy (loadRequest settings invocation)
        (transport.connect { world }).2 = (result, d₁)) :
    loadOverHttp (Desk.terminal outputs) transport patience threshold settings invocation
        { world } = (result, (transport.close 1 d₁).2) := by
  rw [loadOverHttp_eq]
  have hopen : MetadataClient.open? transport settings.metadataEndpoint
      (some settings.requestTimeout) ({ world } : Desk ω) =
        (.ok (metadataClient settings base), (transport.connect { world }).2) := by
    unfold MetadataClient.open? Client.open?
    rw [show endpoint settings.metadataEndpoint .metadata "Metadata" = .ok base from h]
    show (Except.ok (⟨⟨base, some settings.requestTimeout,
      (transport.connect ({ world } : Desk ω)).1⟩⟩ : MetadataClient), _) = _
    rw [hconnect]
    rfl
  rw [run_bind hopen]
  exact (run_bind hload).trans rfl

variable (web threshold) in
/-- The load of a command does what its conversation shows. -/
theorem load_renders
    (htell : CanTell outputs (conversation web settings (metadataClient settings base) patience
      invocation world).2.events) :
    let whole := load (overHttp (Desk.terminal outputs) web.unguarded threshold settings
      (metadataClient settings base)) patience settings.policy (loadRequest settings invocation)
        (web.unguarded.connect { world }).2
    let said := conversation web settings (metadataClient settings base) patience invocation world
    whole.1 = said.1 ∧ ∃ shown, whole.2.events = .connected 1 :: shown ∧
      Renders outputs settings threshold (metadataClient settings base) said.2.events shown := by
  intro whole said
  have hagree := load_agree (overHttp_renders web outputs settings threshold
    (metadataClient settings base) [.connected 1])
    patience settings.policy (loadRequest settings invocation)
  obtain ⟨hvalue, -, -, hevents⟩ := hagree.forth (web.unguarded.connect { world }).2
    { world, sessions := 1 } ⟨rfl, fun _ _ => rfl, [], rfl, .nil⟩ htell
  exact ⟨hvalue, hevents⟩

/-- The walk and the draining of a command come to what those of its conversation do. -/
theorem walkAndDrain_unguarded
    (hlimits : settings.policy.limits? (loadRequest settings invocation) = .ok limits)
    (htell : CanTell outputs (conversation web settings (metadataClient settings base) patience
      invocation world).2.events) :
    walkAndDrain outputs patience threshold settings invocation world web.unguarded base limits =
      (({ limits } : Pool).loadAll
        (services web settings (metadataClient settings base)).environment patience
        (loadRequest settings invocation) { world, sessions := 1 }).1.1 := by
  have hrenders := overHttp_renders web outputs settings threshold (metadataClient settings base)
    [.connected 1]
  have hagree := Pool.loadAll_agree { limits } hrenders patience (loadRequest settings invocation)
  rw [conversation, load_eq _ patience hlimits] at htell
  have hinside := (leaveScope_agree hrenders (loadRequest settings invocation) _).back _ htell
  obtain ⟨hvalue, -⟩ := hagree.forth (web.unguarded.connect { world }).2
    { world, sessions := 1 } ⟨rfl, fun _ _ => rfl, [], rfl, .nil⟩ hinside
  exact congrArg Prod.fst hvalue

/-- What a command does with the result of its load. -/
def settle (outputs : Outputs) (threshold : LogThreshold) (d : Desk ω) :
    LoadResult → Result × Desk ω
  | .finished .. => ({ threshold, ending := .exit 0 }, d)
  | .unfinished => ({ threshold, ending := .unfinished }, d)
  | .failed fault closing =>
    if fault.kind.isReported then
      ({ threshold, ending := .exit 1 },
        d.write (.complained (outputs.errText s!"Error: {fault.message}")))
    else ({ threshold, ending := .escaped fault closing }, d)

theorem runInvocation_of_load {transport : Transport (StateM (Desk ω))}
    {environment : List (String × String)} {d d₁ : Desk ω} {result : LoadResult}
    (hsettings : Settings.read { environment } = .ok settings)
    (hlevel : LogThreshold.ofName? (levelName settings invocation) = some threshold)
    (hload : loadOverHttp (Desk.terminal outputs) transport patience threshold settings invocation
      d = (result, d₁)) :
    runInvocation (Desk.terminal outputs) transport patience environment invocation d =
      settle outputs threshold d₁ result := by
  unfold runInvocation
  simp only [hsettings, hlevel]
  rw [run_bind hload]
  match result with
  | .finished .. => rfl
  | .unfinished => rfl
  | .failed fault closing =>
      unfold settle report
      by_cases hreported : fault.kind.isReported = true
      · simp only [if_pos hreported]
        rfl
      · simp only [if_neg hreported]
        rfl

end Run

/-! ## What is seen of a command -/

section Seen

variable {ω : Type} {web : Web ω} {outputs : Outputs} {patience : Patience}
  {threshold : LogThreshold} {settings : Settings} {invocation : Invocation} {world : ω}
  {base : String} {limits : PoolLimits} {environment : List (String × String)}
  {shown after : List Event} {n : Nat}

/-- All that is seen of a command whose load is seen as `shown`. -/
def around (shown after : List Event) : List Event :=
  .connected 1 :: (shown ++ .disconnected 1 :: after)

/-- Each of the events is a complaint. -/
def Complaints (after : List Event) : Prop :=
  ∀ e ∈ after, ∃ text, e = .complained text

theorem Complaints.onClient_eq_nil (h : Complaints after) : onClient n after = [] :=
  List.filter_eq_nil_iff.mpr fun e he => by
    obtain ⟨text, rfl⟩ := h e he
    simp [Event.client?]

theorem Complaints.filterMap_eq_nil {α : Type} {f : Event → Option α} (h : Complaints after)
    (hf : ∀ text, f (.complained text) = none) : after.filterMap f = [] :=
  List.filterMap_eq_nil_iff.mpr fun e he => by
    obtain ⟨text, rfl⟩ := h e he
    exact hf text

theorem onClient_around_one (hafter : Complaints after) :
    onClient 1 (around shown after) =
      .connected 1 :: (onClient 1 shown ++ [.disconnected 1]) := by
  simp only [around, onClient_cons, onClient_append, Event.client?, if_true,
    hafter.onClient_eq_nil]

theorem onClient_around (hafter : Complaints after) (hn : n ≠ 1) :
    onClient n (around shown after) = onClient n shown := by
  have hone : ¬ some 1 = some n := fun heq => hn (Option.some.inj heq).symm
  simp only [around, onClient_cons, onClient_append, Event.client?, hone, if_false,
    hafter.onClient_eq_nil, List.append_nil]

/-- What a function notes of a command, but for its first client, it notes of the load and of the
complaints. -/
theorem filterMap_around {α : Type} {f : Event → Option α} (hf : f (.disconnected 1) = none) :
    (around shown after).filterMap f =
      [Event.connected 1].filterMap f ++ (shown.filterMap f ++ after.filterMap f) := by
  rw [around, ← List.singleton_append, List.filterMap_append, List.filterMap_append,
    List.filterMap_cons_none hf]

theorem connected_around (hafter : Complaints after) :
    (around shown after).filterMap Event.connected? =
      1 :: shown.filterMap Event.connected? := by
  rw [filterMap_around rfl, hafter.filterMap_eq_nil fun _ => rfl, List.append_nil]
  rfl

/-- **Each client of a command lives once**: it is opened, sends requests, and is closed.  Nothing
happens on any other. -/
theorem lives_around (hafter : Complaints after)
    (hlimits : settings.policy.limits? (loadRequest settings invocation) = .ok limits)
    (h : Renders outputs settings threshold (metadataClient settings base) (conversation web
      settings (metadataClient settings base) patience invocation world).2.events shown) :
    (∀ n ∉ (around shown after).filterMap Event.connected?,
      onClient n (around shown after) = []) ∧
    ∀ n ∈ (around shown after).filterMap Event.connected?,
      ∃ life, ClientLife n life ∧ onClient n (around shown after) <+: life ∧
        ((conversation web settings (metadataClient settings base) patience invocation world).1 ≠
          .unfinished → onClient n (around shown after) = life) := by
  obtain ⟨hown, hothers, hsessions⟩ := h.orderly hlimits
  rw [connected_around hafter]
  refine ⟨fun n hn => ?_, fun n hn => ?_⟩
  · rw [List.mem_cons, not_or] at hn
    rw [onClient_around hafter hn.1]
    exact hothers n hn.1 hn.2
  · by_cases hone : n = 1
    · subst hone
      rw [onClient_around_one hafter]
      exact ⟨_, ⟨_, rfl, hown⟩, List.prefix_refl _, fun _ => rfl⟩
    · rw [onClient_around hafter hone]
      exact (hsessions n ((List.mem_cons.mp hn).resolve_left hone)).2

theorem orderly_around (hafter : Complaints after)
    (hlimits : settings.policy.limits? (loadRequest settings invocation) = .ok limits)
    (h : Renders outputs settings threshold (metadataClient settings base) (conversation web
      settings (metadataClient settings base) patience invocation world).2.events shown) :
    Orderly (around shown after) := by
  obtain ⟨hnone, hlives⟩ := lives_around hafter hlimits h
  intro n
  by_cases hn : n ∈ (around shown after).filterMap Event.connected?
  · obtain ⟨life, hlife, hprefix, -⟩ := hlives n hn
    exact ⟨life, hlife, hprefix⟩
  · rw [hnone n hn]
    exact ⟨_, ⟨[], rfl, by simp⟩, List.nil_prefix⟩

/-- On connections that check nothing, a command settles what its conversation has come to. -/
theorem runInvocation_renders
    (hsettings : Settings.read { environment } = .ok settings)
    (hlevel : LogThreshold.ofName? (levelName settings invocation) = some threshold)
    (hbase : metadataEndpoint settings = .ok base)
    (htell : CanTell outputs (conversation web settings (metadataClient settings base) patience
      invocation world).2.events) :
    let said := conversation web settings (metadataClient settings base) patience invocation world
    ∃ shown d,
      Renders outputs settings threshold (metadataClient settings base) said.2.events shown ∧
      d.events = around shown [] ∧
      runInvocation (Desk.terminal outputs) web.unguarded patience environment invocation
        { world } = settle outputs threshold d said.1 := by
  intro said
  obtain ⟨hvalue, shown, hevents, hrenders⟩ := load_renders web threshold htell
  obtain ⟨⟨result, d₁⟩, hload⟩ : ∃ r, load (overHttp (Desk.terminal outputs) web.unguarded threshold
      settings (metadataClient settings base)) patience settings.policy
        (loadRequest settings invocation) (web.unguarded.connect { world }).2 = r := ⟨_, rfl⟩
  rw [hload] at hvalue hevents
  rw [← hvalue]
  refine ⟨shown, _, hrenders, ?_, runInvocation_of_load hsettings hlevel
    (loadOverHttp_of_accepted (fun _ => rfl) hbase hload)⟩
  refine (Desk.events_write d₁ (.disconnected 1)).trans ?_
  exact congrArg (· ++ [Event.disconnected 1]) hevents

variable (outputs threshold) in
/-- What a command does with the result of its load adds a complaint at most. -/
theorem settle_events {d : Desk ω} {result : LoadResult} (hd : d.events = around shown []) :
    ∃ after, (settle outputs threshold d result).2.events = around shown after ∧
      Complaints after := by
  have hnone : ∃ after, d.events = around shown after ∧ Complaints after :=
    ⟨[], hd, by rintro e ⟨⟩⟩
  match result with
  | .finished .. | .unfinished => exact hnone
  | .failed fault closing =>
      by_cases hreported : fault.kind.isReported = true
      · refine ⟨[.complained (outputs.errText s!"Error: {fault.message}")], ?_,
          by simp [Complaints]⟩
        simp only [settle, if_pos hreported]
        rw [Desk.events_write, hd]
        simp [around]
      · simp only [settle, if_neg hreported]
        exact hnone

/-- The walk and the draining come to the same on connections that check. -/
theorem walkAndDrain_transport
    (hlimits : settings.policy.limits? (loadRequest settings invocation) = .ok limits)
    (htell : CanTell outputs (conversation web settings (metadataClient settings base) patience
      invocation world).2.events) :
    walkAndDrain outputs patience threshold settings invocation world web.transport base limits =
      walkAndDrain outputs patience threshold settings invocation world web.unguarded base
        limits := by
  have hsame := overHttp_agree (Desk.terminal_same outputs) web.transport_same threshold settings
    (metadataClient settings base)
  have hinside := Pool.loadAll_agree { limits } hsame patience (loadRequest settings invocation)
  obtain ⟨-, shown, hevents, hrenders⟩ := load_renders web threshold htell
  have horderly : Orderly (.connected 1 :: shown) :=
    (show Orderly ((.connected 1 :: shown) ++ [.disconnected 1]) from
      orderly_around (by rintro e ⟨⟩) hlimits hrenders).left
  rw [← hevents, load_eq _ patience hlimits] at horderly
  have hgood := (leaveScope_agree hsame (loadRequest settings invocation) _).back _ horderly
  obtain ⟨-, -, haccounts⟩ := web.connect_same.forth { world } { world }
    ⟨rfl, Desk.accounts_initial world⟩ (hinside.back _ hgood)
  obtain ⟨hvalue, -⟩ := hinside.forth _ _ ⟨rfl, haccounts⟩ hgood
  exact congrArg Prod.fst hvalue

theorem settle_of_reported {d : Desk ω} {fault : Fault} {closing : Option Fault}
    (h : fault.kind.isReported = true) :
    settle outputs threshold d (.failed fault closing) =
      ({ threshold, ending := .exit 1 },
        d.write (.complained (outputs.errText s!"Error: {fault.message}"))) := by
  simp only [settle, if_pos h]

/-- A command whose storage system has no proper address ends at once, and says so. -/
theorem runInvocation_of_refused {transport : Transport (StateM (Desk ω))} {fault : Fault}
    (hsettings : Settings.read { environment } = .ok settings)
    (hlevel : LogThreshold.ofName? (levelName settings invocation) = some threshold)
    (hfault : metadataEndpoint settings = .error fault) :
    runInvocation (Desk.terminal outputs) transport patience environment invocation { world } =
      ({ threshold, ending := .exit 1 },
        ({ world } : Desk ω).write
          (.complained (outputs.errText s!"Error: {fault.message}"))) := by
  rw [runInvocation_of_load hsettings hlevel (loadOverHttp_of_refused hfault)]
  exact settle_of_reported (by rw [kind_of_endpoint hfault]; rfl)

/-- The checks of the connections make no difference to a command. -/
theorem runInvocation_transport
    (hlimits : settings.policy.limits? (loadRequest settings invocation) = .ok limits)
    (hsettings : Settings.read { environment } = .ok settings)
    (hlevel : LogThreshold.ofName? (levelName settings invocation) = some threshold)
    (hbase : metadataEndpoint settings = .ok base)
    (htell : CanTell outputs (conversation web settings (metadataClient settings base) patience
      invocation world).2.events) :
    runInvocation (Desk.terminal outputs) web.transport patience environment invocation { world } =
      runInvocation (Desk.terminal outputs) web.unguarded patience environment invocation
        { world } := by
  obtain ⟨shown, d, hrenders, hd, hrun⟩ := runInvocation_renders hsettings hlevel hbase htell
  obtain ⟨after, hevents, hafter⟩ := settle_events outputs threshold hd
  refine runInvocation_unguarded web outputs patience environment invocation world ?_
  rw [hrun, hevents]
  exact orderly_around hafter hlimits hrenders

end Seen

end CommandLine

end LoadDispatch
