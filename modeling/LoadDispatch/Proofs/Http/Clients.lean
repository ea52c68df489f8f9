import LoadDispatch.Proofs.Http.Agreement
import LoadDispatch.Trace

/-!
# The life of a client

A client is opened, sends requests, and is closed.  `ClientLife` says of the events of one client
that they are these in this order: it is closed once, and no request is sent before it is opened or
after it is closed.

The connections that a run is recorded with refuse a request on a closed client, and do not close a
client again; neither of them is an event.  So that they do not happen cannot be read off a trace.
`Web.unguarded` are connections that check nothing, where both are events like any other.  If the
clients of a run on these live as they should, the checks make no difference
(`runInvocation_unguarded`): the run on the connections that check is the very same.
-/

namespace LoadDispatch

variable {ω α : Type}

/-- Connections to a web that check nothing. -/
def Web.unguarded (w : Web ω) : Http.Transport (StateM (Desk ω)) where
  connect := w.transport.connect
  send client request := consult (w.respond client request) (.exchanged client request)
  close client := do
    modify fun d => { d with openClients := d.openClients.filter (· != client) }
    record (.disconnected client)

/-- The client that an event is about. -/
def Event.client? : Event → Option Nat
  | .connected client => some client
  | .exchanged client _ _ => some client
  | .disconnected client => some client
  | _ => none

/-- A request is sent. -/
def Event.isExchange : Event → Bool
  | .exchanged .. => true
  | _ => false

/-- The events of a client, in order. -/
def onClient (n : Nat) (events : List Event) : List Event :=
  events.filter fun e => e.client? = some n

/-- A client was opened, sent requests, and was closed. -/
def ClientLife (n : Nat) (events : List Event) : Prop :=
  ∃ talk, events = .connected n :: (talk ++ [.disconnected n]) ∧ ∀ e ∈ talk, e.isExchange = true

/-- All clients live as they should, as far as they have come. -/
def Orderly (events : List Event) : Prop :=
  ∀ n, ∃ life, ClientLife n life ∧ onClient n events <+: life

section Lives

variable {n : Nat} {e : Event} {xs ys life : List Event}

@[simp] theorem onClient_append : onClient n (xs ++ ys) = onClient n xs ++ onClient n ys :=
  List.filter_append ..

theorem onClient_cons : onClient n (e :: xs) =
    if e.client? = some n then e :: onClient n xs else onClient n xs := by
  rw [onClient, List.filter_cons]
  simp only [decide_eq_true_eq]
  rfl

theorem mem_onClient (xs : List Event) (h : e.client? = some n) : e ∈ onClient n xs ↔ e ∈ xs := by
  simp [onClient, h]

theorem onClient_concat (h : e.client? = some n) :
    onClient n (xs ++ [e]) = onClient n xs ++ [e] := by
  simp [onClient, h]

/-- What is orderly was so before. -/
theorem Orderly.left (h : Orderly (xs ++ ys)) : Orderly xs := by
  intro n
  obtain ⟨life, hlife, hbegins⟩ := h n
  rw [onClient_append] at hbegins
  exact ⟨life, hlife, (List.prefix_append _ _).trans hbegins⟩

/-- After a client is closed it does nothing. -/
theorem ClientLife.not_closed (h : ClientLife n life) (hbegins : xs ++ [e] <+: life) :
    .disconnected n ∉ xs := by
  obtain ⟨talk, rfl, htalk⟩ := h
  obtain ⟨more, hmore⟩ := hbegins
  -- What comes before the last event of a life has no closing in it.
  have hxs : xs <+: .connected n :: talk := by
    have hlife : xs <+: .connected n :: (talk ++ [.disconnected n]) :=
      ⟨e :: more, by simpa using hmore⟩
    refine List.prefix_of_prefix_length_le hlife ⟨[.disconnected n], rfl⟩ ?_
    have hlength := congrArg List.length hmore
    simp only [List.length_append, List.length_cons, List.length_nil] at hlength ⊢
    omega
  intro hmem
  rcases List.mem_cons.mp (hxs.subset hmem) with heq | hin
  · cases heq
  · exact absurd (htalk _ hin) (by simp [Event.isExchange])

/-- Before a client does anything it is opened. -/
theorem ClientLife.opened (h : ClientLife n life) (hbegins : xs ++ [e] <+: life)
    (hne : e ≠ .connected n) : .connected n ∈ xs := by
  obtain ⟨talk, rfl, -⟩ := h
  cases xs with
  | nil => exact absurd (List.cons_prefix_cons.mp hbegins).1 hne
  | cons x xs =>
      rw [List.cons_append, List.cons_prefix_cons] at hbegins
      exact hbegins.1 ▸ List.mem_cons_self

/-- A client is opened once. -/
theorem ClientLife.eq_nil_of_connected (h : ClientLife n life)
    (hbegins : xs ++ [.connected n] <+: life) : xs = [] := by
  obtain ⟨talk, rfl, htalk⟩ := h
  cases xs with
  | nil => rfl
  | cons x xs =>
      rw [List.cons_append, List.cons_prefix_cons] at hbegins
      have hmem := hbegins.2.subset (List.mem_append_right xs List.mem_cons_self)
      rcases List.mem_append.mp hmem with hin | hlast
      · exact absurd (htalk _ hin) (by simp [Event.isExchange])
      · cases List.mem_singleton.mp hlast

end Lives

/-! ## What the checks see -/

/-- The open clients of a desk are those that its events show as open. -/
def Desk.Accounts (d : Desk ω) : Prop :=
  ∀ n, n ∈ d.openClients ↔ .connected n ∈ d.events ∧ .disconnected n ∉ d.events

/-- Two runs are the same, as long as the clients live as they should. -/
abbrev SameWhileOrderly (x y : Recorded ω α) : Prop :=
  Agree (fun s t => s = t ∧ t.Accounts) (fun d => Orderly d.events) x y

@[simp] theorem Desk.events_write (d : Desk ω) (e : Event) :
    (d.write e).events = d.events ++ [e] := by
  simp [Desk.write, Desk.events]

theorem Desk.accounts_initial (world : ω) : ({ world } : Desk ω).Accounts := by
  intro n
  simp [Desk.events]

section Same

variable {x y : Recorded ω α} {d : Desk ω} {e : Event} {n : Nat}

/-- It is enough to look at one event. -/
theorem sameWhileOrderly_of_single (event : Desk ω → Event)
    (hy : ∀ d, (y d).2.events = d.events ++ [event d])
    (h : ∀ d : Desk ω, d.Accounts → Orderly (d.events ++ [event d]) →
      x d = y d ∧ (y d).2.Accounts) : SameWhileOrderly x y := by
  refine ⟨fun d hgood => ?_, ?_⟩
  · rw [hy d] at hgood
    exact hgood.left
  · rintro d _ ⟨rfl, hd⟩ hgood
    rw [hy d] at hgood
    obtain ⟨heq, haccounts⟩ := h d hd hgood
    exact ⟨congrArg Prod.fst heq, congrArg Prod.snd heq, haccounts⟩

/-- Only opening and closing change an account. -/
theorem Desk.Accounts.write (h : d.Accounts)
    (he : ∀ n, e ≠ .connected n ∧ e ≠ .disconnected n) : (d.write e).Accounts := by
  intro n
  rw [Desk.events_write, List.mem_append, List.mem_append, List.mem_singleton,
    List.mem_singleton, or_iff_left (he n).1.symm, or_iff_left (he n).2.symm]
  exact h n

theorem record_same (he : ∀ n, e ≠ .connected n ∧ e ≠ .disconnected n) :
    SameWhileOrderly (ω := ω) (record e) (record e) :=
  sameWhileOrderly_of_single (fun _ => e) (fun d => d.events_write e)
    fun _ hd _ => ⟨rfl, hd.write he⟩

/-- A client that does something, and not for the first time, is open. -/
theorem Desk.Accounts.mem_openClients (h : d.Accounts) (horderly : Orderly (d.events ++ [e]))
    (hn : e.client? = some n) (hne : e ≠ .connected n) : n ∈ d.openClients := by
  obtain ⟨life, hlife, hbegins⟩ := horderly n
  rw [onClient_concat hn] at hbegins
  rw [h n, ← mem_onClient d.events rfl, ← mem_onClient d.events rfl]
  exact ⟨hlife.opened hbegins hne, hlife.not_closed hbegins⟩

end Same

/-- The terminal of a desk writes no event of a client. -/
theorem Desk.terminal_same (outputs : CommandLine.Outputs) :
    (Desk.terminal outputs (ω := ω)).AgreesWith (fun s t => s = t ∧ t.Accounts)
      (fun d => Orderly d.events) (Desk.terminal outputs) :=
  ⟨fun _ => (record_same (by simp)).bind fun _ => .pure _, fun _ => record_same (by simp),
    fun _ => record_same (by simp), fun _ => record_same (by simp),
    fun _ => record_same (by simp)⟩

section Transport

variable (w : Web ω)

theorem Web.connect_same : SameWhileOrderly w.transport.connect w.unguarded.connect := by
  refine sameWhileOrderly_of_single (fun d => .connected (d.clients + 1))
    (fun d => Desk.events_write _ _) fun d hd horderly => ⟨rfl, fun n => ?_⟩
  show n ∈ (d.clients + 1) :: d.openClients ↔
    .connected n ∈ (Desk.write _ (.connected (d.clients + 1))).events ∧
      .disconnected n ∉ (Desk.write _ (.connected (d.clients + 1))).events
  rw [Desk.events_write]
  show _ ↔ .connected n ∈ d.events ++ _ ∧ .disconnected n ∉ d.events ++ _
  by_cases hn : n = d.clients + 1
  · subst hn
    -- It is opened for the first time, so it was not closed yet.
    obtain ⟨life, hlife, hbegins⟩ := horderly (d.clients + 1)
    rw [onClient_concat rfl] at hbegins
    have hnew := hlife.eq_nil_of_connected hbegins
    have hclosed : .disconnected (d.clients + 1) ∉ d.events := by
      rw [← mem_onClient d.events rfl, hnew]
      exact List.not_mem_nil
    simp [hclosed]
  · simp [hn, hd n]

theorem Web.send_same (client : Nat) (request : Http.Request) :
    SameWhileOrderly (w.transport.send client request) (w.unguarded.send client request) := by
  refine sameWhileOrderly_of_single
    (fun d => .exchanged client request (w.respond client request d.world).1)
    (fun d => Desk.events_write _ _) fun d hd horderly => ⟨?_, Desk.Accounts.write hd (by simp)⟩
  have hopen : d.openClients.contains client = true :=
    List.contains_iff_mem.mpr (hd.mem_openClients horderly rfl (by simp))
  show (if d.openClients.contains client = true then w.unguarded.send client request
    else pure (.error .clientClosed)) d = _
  rw [if_pos hopen]

theorem Web.close_same (client : Nat) :
    SameWhileOrderly (w.transport.close client) (w.unguarded.close client) := by
  refine sameWhileOrderly_of_single (fun _ => .disconnected client)
    (fun d => Desk.events_write _ _) fun d hd horderly => ⟨?_, fun n => ?_⟩
  · have hopen : d.openClients.contains client = true :=
      List.contains_iff_mem.mpr (hd.mem_openClients horderly rfl (by simp))
    show (if d.openClients.contains client = true then w.unguarded.close client
      else pure ()) d = _
    rw [if_pos hopen]
  · show n ∈ d.openClients.filter (· != client) ↔
      .connected n ∈ (Desk.write _ (.disconnected client)).events ∧
        .disconnected n ∉ (Desk.write _ (.disconnected client)).events
    rw [Desk.events_write]
    show _ ↔ .connected n ∈ d.events ++ _ ∧ .disconnected n ∉ d.events ++ _
    simp [hd n, and_assoc, not_or]

/-- As long as the clients live as they should, the checks make no difference. -/
theorem Web.transport_same : w.transport.AgreesWith (fun s t => s = t ∧ t.Accounts)
    (fun d => Orderly d.events) w.unguarded :=
  ⟨w.connect_same, w.send_same, w.close_same⟩

/-- **The checks of a connection make no difference** to a command whose clients live as they should
without them. -/
theorem runInvocation_unguarded (outputs : CommandLine.Outputs) (patience : Patience)
    (environment : List (String × String)) (invocation : CommandLine.Invocation) (world : ω)
    (horderly : Orderly (CommandLine.runInvocation (Desk.terminal outputs) w.unguarded patience
      environment invocation { world }).2.events) :
    CommandLine.runInvocation (Desk.terminal outputs) w.transport patience environment invocation
        { world } =
      CommandLine.runInvocation (Desk.terminal outputs) w.unguarded patience environment invocation
        { world } := by
  have h := CommandLine.runInvocation_agree (Desk.terminal_same outputs) w.transport_same patience
    environment invocation
  obtain ⟨hvalue, hdesk, -⟩ := h.forth _ _ ⟨rfl, Desk.accounts_initial world⟩ horderly
  exact Prod.ext hvalue hdesk

end Transport

end LoadDispatch
