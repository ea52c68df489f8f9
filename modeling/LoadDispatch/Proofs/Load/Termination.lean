import LoadDispatch.Proofs.Load.Return
import LoadDispatch.Proofs.Pool.Obliging

/-!
# Loads that end

With services that keep their word everything that waits comes to an end: draining a pool, waiting
for a slot, admitting a job, and a load as a whole.  From whatever state a pool was brought to, no
more sweeps are needed than the submissions of a job, times one more than the number of pending
answers to each; how many jobs are in flight makes no difference, since a sweep counts for all of
them at once.

What is assumed of the services is assumed of the answers that they give in the run itself.  Only
two things are not a matter of answers: the owner has released no attempt by itself, and the folders
below the root of a load are finitely many and none of them below itself.
-/

namespace LoadDispatch

open Pool

section Termination

variable {ω : Type} {w : World ω} {K passes : Nat}

/-- An answer about metadata that is had is no fault. -/
theorem Event.Available.metadataFault?_eq_none {e : Event} (h : e.Available) :
    e.metadataFault? = none := by
  cases e with
  | statted _ answer | listed _ answer =>
      cases answer with
      | ok => rfl
      | error => exact h.elim
  | _ => rfl

/-- Where operations have led to, if none of them was a release: the ledger is right, and nothing is
released in flight. -/
theorem performAll_reaches {limits : PoolLimits} {passes₀ : Nat} {ops : List Operation}
    {outcomes : List (Outcome Reply)} {p : Pool} {d d₁ : Desk ω}
    (h : ({ limits } : Pool).performAll w.environment passes₀ ops d = ((outcomes, p), d₁))
    (hops : ∀ o ∈ ops, o.isRelease = false) :
    ∃ before, Records w d before d₁ ∧ Ledger before p ∧ p.Held ∧ p.limits = limits := by
  obtain ⟨hrecords, hperforms⟩ := (performAll_ensures passes₀ { limits } ops).of_run h
  have hheld : ({ limits } : Pool).Held := by
    rintro a ⟨⟩
  have hn := hrecords.nodup_openedIn
  exact ⟨_, hrecords, (Ledger.initial limits).performsAll hperforms hn,
    hperforms.held (.initial limits) hn hops hheld, hperforms.limits_eq⟩

section Reached

variable {p : Pool} {before : List Event} {d d₁ : Desk ω}

theorem drain_terminates (hbefore : Records w d before d₁) (l : Ledger before p)
    (hheld : p.Held) (hpasses : p.limits.submissions * (K + 1) ≤ passes) :
    let drained := p.drain w.environment passes d₁
    let events := drained.2.eventsSince d₁.journal.length
    Obliging K events → drained.1.1 = .returned () ∧ drained.1.2.inFlight = [] ∧
      sweepsIn events ≤ p.limits.submissions * (K + 1) := by
  intro drained events hobliging
  obtain ⟨hrecords, hdrains⟩ := (p.drain_ensures (w := w) passes).of_run (d := d₁) rfl
  have hA : Served K before ([] ++ events) :=
    ⟨(hbefore.append hrecords).nodup_openedIn, hobliging,
      fun e he => (hdrains.among.1 e he).available⟩
  obtain ⟨hreturned, hsweeps, -⟩ := hdrains.returns (countdown_of_obliging p.limits K before)
    (.initial l hheld) hA (Nat.le_refl _) hpasses
  rw [hreturned] at hdrains
  exact ⟨hreturned, hdrains.inFlight_eq, hsweeps⟩

theorem waitForSlot_terminates (hbefore : Records w d before d₁) (l : Ledger before p)
    (hheld : p.Held) (hpasses : p.limits.submissions * (K + 1) ≤ passes)
    (hne : p.inFlight ≠ []) :
    let waited := p.waitForSlot w.environment passes d₁
    Obliging K (waited.2.eventsSince d₁.journal.length) →
      ∃ removed, waited.1.1 = .returned removed := by
  intro waited hobliging
  obtain ⟨hrecords, hwaits⟩ := (p.waitForSlot_ensures (w := w) passes).of_run (d := d₁) rfl
  have hA : Served K before ([] ++ waited.2.eventsSince d₁.journal.length) :=
    ⟨(hbefore.append hrecords).nodup_openedIn, hobliging,
      fun e he => (hwaits.among.1 e he).available⟩
  obtain ⟨removed, _, hreturned, -⟩ := hwaits.returns (countdown_of_obliging p.limits K before)
    (.initial l hheld) hA hne hpasses
  exact ⟨removed, hreturned⟩

theorem admitJob_terminates (hbefore : Records w d before d₁) (l : Ledger before p)
    (hheld : p.Held) (hpasses : p.limits.submissions * (K + 1) ≤ passes) (config : JobConfig) :
    let admitted := p.admitJob w.environment passes config d₁
    let events := admitted.2.eventsSince d₁.journal.length
    Obliging K events → (∀ e ∈ events, e.Available) → ∃ a, admitted.1.1 = .returned a := by
  intro admitted events hobliging havailable
  obtain ⟨hrecords, hadmits⟩ := (admitJob_ensures (w := w) passes config p).of_run (d := d₁) rfl
  have hA : Served K before ([] ++ events) :=
    ⟨(hbefore.append hrecords).nodup_openedIn, hobliging, havailable⟩
  exact (hadmits.returns (countdown_of_obliging p.limits K before) (.initial l hheld) hA hpasses
    fun _ _ => trivial).1

end Reached

/-- The inside of a load returns, and then the load is finished. -/
theorem load_terminates {m : Metadata} {depth : Nat} {patience : Patience} {policy : LoadPolicy}
    {request : LoadRequest} {limits : PoolLimits} (hanswers : w.AnswersBy m)
    (hshallow : m.Shallow depth request.path) (hdepth : depth ≤ patience.depth)
    (hlimits : policy.limits? request = .ok limits)
    (hpasses : limits.submissions * (K + 1) ≤ patience.passes) (d : Desk ω) :
    let result := load w.environment patience policy request d
    let events := result.2.eventsSince d.journal.length
    Obliging K events → (∀ e ∈ events, e.Available) →
      ∃ completed abandoned, result.1 = .finished completed abandoned := by
  intro result events hobliging havailable
  obtain ⟨⟨⟨outcome, p⟩, d₁⟩, hinside⟩ :
      ∃ r, ({ limits } : Pool).loadAll w.environment patience request d = r := ⟨_, rfl⟩
  obtain ⟨hrecords, hloads, -⟩ := loadAll_run hinside
  obtain ⟨after, hrecords', -⟩ := load_goes_on hlimits hinside
  have hevents : events = d₁.eventsSince d.journal.length ++ after :=
    (hrecords.append hrecords').eventsSince
  rw [hevents] at hobliging havailable
  have hA : Served K [] ([] ++ d₁.eventsSince d.journal.length) :=
    ⟨hrecords.nodup_openedIn, hobliging.left,
      fun e he => havailable e (List.mem_append_left _ he)⟩
  have hheld : ({ limits } : Pool).Held := by
    rintro a ⟨⟩
  obtain ⟨steps, ending, href⟩ : ∃ steps ending,
      Reference m request.replication d.sessions [.path request.path] steps ending :=
    exists_reference_path (hshallow.mono hdepth) (fun n => ⟨[], none, .done n⟩) d.sessions
  rcases hloads.returns (countdown_of_obliging limits K []) (.initial (.initial limits) hheld) hA
      hpasses hrecords.numbers (fun e he => hanswers.tells (hrecords.given e he))
      (hshallow.mono hdepth) href (fun _ _ _ => trivial) with
    ⟨houtcome, -⟩ | ⟨e, he, fault, hfault, -⟩
  · subst houtcome
    obtain ⟨_, hwhole, -⟩ := load_of_returned hlimits hinside hloads.inFlight_eq
    exact ⟨p.completed, p.abandoned, congrArg Prod.fst hwhole⟩
  · rw [(hA.available e he).metadataFault?_eq_none] at hfault
    cases hfault

theorem LoadPolicy.submissions_eq {policy : LoadPolicy} {request : LoadRequest}
    {limits : PoolLimits} (hlimits : policy.limits? request = .ok limits) :
    limits.submissions = (max 1 policy.submissions).toNat := by
  unfold LoadPolicy.limits? at hlimits
  split at hlimits
  · cases hlimits
  · exact submissions_eq_of_request hlimits

end Termination

/-- Services whose answers never change: every submission is given a number, and a query is answered
by what was decided for its session. -/
def World.steady (m : Metadata) (verdict : Session → JobStatus) : World Unit where
  connect _ s := (.ok (), s)
  submit _ _ s := (.ok (some 1), s)
  poll session _ s := (.ok (.known (verdict session)), s)
  close _ s := (.ok (), s)
  stat path s := (m.stat path, s)
  list path s := (m.list path, s)

section Steady

variable {m : Metadata} {verdict : Session → JobStatus} {events : List Event}

theorem World.steady_answersBy : (World.steady m verdict).AnswersBy m :=
  ⟨fun _ _ => rfl, fun _ _ => rfl⟩

/-- Steady services that call no job pending keep their word. -/
theorem obliging_of_steady (h : ∀ e ∈ events, (World.steady m verdict).Gives e)
    (hverdict : ∀ s, (verdict s).isPending = false) : Obliging 0 events := by
  refine ⟨fun e he => ?_, fun s calls hcalls => ?_⟩
  · have hgives := h e he
    cases e with
    | submitted | polled | closed =>
        obtain ⟨_, rfl⟩ := hgives
        trivial
    | _ => trivial
  · -- No answer is pending, so the count never begins.
    have hmem : ∀ e ∈ calls, e ∈ events := fun e he => (mem_callsOn.mp (hcalls.subset he)).1
    clear hcalls
    suffices hzero : pendingAfter calls = 0 from hzero.le
    induction calls using List.reverseRecOn with
    | nil => rfl
    | append_singleton calls e ih =>
        rw [List.forall_mem_append] at hmem
        rw [pendingAfter_append, ih hmem.1]
        have hgives := h e (hmem.2 e List.mem_cons_self)
        cases e with
        | polled session =>
            obtain ⟨_, rfl⟩ := hgives
            show (if (verdict session).isPending then 0 + 1 else 0) = 0
            rw [hverdict session]
            rfl
        | _ => rfl

end Steady

/-- A folder with two files, and files everywhere else. -/
def smallMetadata : Metadata where
  stat path := .ok { path, folder := path == "/data" }
  list _ := .ok [{ path := "/data/a" }, { path := "/data/b" }]

/-- No folder is below another. -/
theorem smallMetadata_below {parent child : String} : ¬ smallMetadata.Below parent child := by
  rintro ⟨status, children, entry, -, -, hlist, hmem, hfolder, -⟩
  cases hlist
  rcases List.mem_cons.mp hmem with rfl | hmem
  · cases hfolder
  · rw [List.mem_singleton.mp hmem] at hfolder
    cases hfolder

/-- Services over the folder with two files, where every second job fails. -/
def smallWorld : World Unit :=
  World.steady smallMetadata fun s => if s.number % 2 = 0 then .failed else .completed

theorem smallWorld_obliging {events : List Event} (h : ∀ e ∈ events, smallWorld.Gives e) :
    Obliging 0 events := by
  refine obliging_of_steady h fun s => ?_
  split <;> rfl

theorem smallWorld_available {e : Event} (h : smallWorld.Gives e) : e.Available := by
  cases e with
  | opened | statted | listed =>
      obtain ⟨_, rfl⟩ := h
      trivial
  | _ => trivial

/-- Two jobs are admitted. -/
def twoJobs : List Operation :=
  [.admitJob { path := "/a" }, .admitJob { path := "/b" }]

end LoadDispatch
