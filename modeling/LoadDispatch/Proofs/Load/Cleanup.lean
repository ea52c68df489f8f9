import LoadDispatch.Proofs.Load.Conduct
import LoadDispatch.Proofs.Pool.Closing

/-!
# The end of a load

A load ends in one of two ways that it has a say in.  If its walk and its draining return, nothing
is in flight any more, and leaving the scope of the pool does nothing.  If one of them ends with a
fault, that fault is the load's, and what is left to do is to close the sessions in flight, all of
them, whatever becomes of each.

Both facts rest on what the pool looks like at that moment.  That it has exactly the open sessions
is the ledger's, and that none of its attempts is released yet is `Held`; so every closing that is
due is made, and none is made twice.
-/

namespace LoadDispatch

/-- Something is done to the world, or told to a person.  Entries of the log and the figures that
make a run observable are not. -/
def Event.isOutside : Event → Bool
  | .told (.progress _) => true
  | .told _ => false
  | _ => true

namespace Pool

variable {p q : Pool} {events : List Event}

/-- Of a release, the closing is what is done outside. -/
theorem filter_isOutside (as : List Attempt) (answers : List (Except Fault Unit)) :
    ((as.zip answers).flatMap releaseEvents).filter Event.isOutside =
      List.zipWith Event.closed (sessionsOf as) answers := by
  have hone : ∀ release, (releaseEvents release).filter Event.isOutside =
      [.closed release.1.session release.2] := by
    rintro ⟨a, fault | ⟨⟩⟩ <;> rfl
  rw [List.filter_flatMap]
  simp only [hone]
  rw [← List.map_eq_flatMap, List.map_zip_eq_zipWith, sessionsOf, List.zipWith_map_left]
  rfl

/-- Releasing attempts that are not released closes their sessions, each once and in order, and
the first fault counts. -/
theorem ReleasesAll.closes_each {as released : List Attempt} {fault : Option Fault}
    (h : ReleasesAll as events fault released) (hheld : ∀ a ∈ as, a.released = false) :
    ∃ answers : List (Except Fault Unit), answers.length = as.length ∧
      events.filter Event.isOutside = List.zipWith Event.closed (sessionsOf as) answers ∧
      fault = answers.findSome? fault? := by
  obtain ⟨answers, hlen, rfl, hfault, -⟩ := h.parts
  have hdue : as.filter (!·.released) = as :=
    List.filter_eq_self.mpr fun a ha => by simp [hheld a ha]
  rw [hdue] at hlen ⊢
  exact ⟨answers, hlen, filter_isOutside as answers, hfault⟩

/-- Closing a pool whose attempts are not released closes their sessions, each once and in order,
and the first fault counts. -/
theorem Closes.closes_each {answer : Except Fault Unit} (h : Closes p events answer q)
    (hheld : p.Held) :
    ∃ answers : List (Except Fault Unit), answers.length = p.inFlight.length ∧
      events.filter Event.isOutside = List.zipWith Event.closed (sessionsOf p.inFlight) answers ∧
      fault? answer = answers.findSome? fault? := by
  obtain ⟨hrel⟩ := h
  exact hrel.closes_each hheld

/-- Closing a pool with nothing in flight does nothing. -/
theorem Closes.of_nil {answer : Except Fault Unit} (h : Closes p events answer q)
    (hnil : p.inFlight = []) : events = [.told (.inFlight 0)] ∧ answer = .ok () ∧
      q.completed = p.completed ∧ q.abandoned = p.abandoned := by
  obtain ⟨hrel⟩ := h
  rw [hnil] at hrel
  generalize hfault : fault? answer = fault at hrel
  cases hrel
  cases answer with
  | error => cases hfault
  | ok => exact ⟨rfl, rfl, rfl, rfl⟩

/-! ## The pool inside a load -/

section Inside

variable {ω : Type} {w : World ω} {patience : Patience} {request : LoadRequest}
  {limits : PoolLimits} {outcome : Outcome Unit} {d d' : Desk ω}

/-- What the walk and the draining of a load do, however they end: the events between the two desks
are theirs, the ledger is right, and nothing is released in flight. -/
theorem loadAll_run
    (h : ({ limits } : Pool).loadAll w.environment patience request d = ((outcome, p), d')) :
    Records w d (d'.eventsSince d.journal.length) d' ∧
      LoadsAll patience request { limits } (d'.eventsSince d.journal.length) outcome p ∧
      Ledger (d'.eventsSince d.journal.length) p ∧ p.Held := by
  obtain ⟨hrecords, hloads⟩ := (loadAll_ensures patience request { limits }).of_run h
  have hheld : ({ limits } : Pool).Held := by
    rintro a ⟨⟩
  have hn := hrecords.nodup_openedIn
  exact ⟨hrecords, hloads, (Ledger.initial limits).moves hloads.moves hn,
    hloads.moves.held (.initial limits) hn hheld⟩

end Inside

end Pool

/-! ## Leaving the scope -/

section Leaving

variable {ω : Type} {w : World ω} {patience : Patience} {policy : LoadPolicy}
  {request : LoadRequest} {limits : PoolLimits} {p : Pool} {d d₁ : Desk ω}

/-- After a fault the pool is closed, and the fault is the load's. -/
theorem load_of_raised {fault : Fault} (hlimits : policy.limits? request = .ok limits)
    (h : ({ limits } : Pool).loadAll w.environment patience request d =
      ((.raised fault, p), d₁)) :
    ∃ answer q d₂ events,
      load w.environment patience policy request d = (.failed fault (fault? answer), d₂) ∧
      Records w d₁ events d₂ ∧ p.Closes events answer q := by
  obtain ⟨⟨closing, q⟩, events, d₂, hd, hrecords, answer, hcloses, hclosing⟩ :=
    p.abort_ensures (w := w) d₁
  refine ⟨answer, q, d₂, events, ?_, hrecords, hcloses⟩
  unfold load
  rw [hlimits]
  refine (run_bind h).trans ((run_bind hd).trans ?_)
  rw [← hclosing]
  rfl

/-- If the inside returns, the load is finished, and only tells so. -/
theorem load_of_returned (hlimits : policy.limits? request = .ok limits)
    (h : ({ limits } : Pool).loadAll w.environment patience request d = ((.returned (), p), d₁))
    (hnil : p.inFlight = []) :
    ∃ d₂, load w.environment patience policy request d = (.finished p.completed p.abandoned, d₂) ∧
      Records w d₁ [.told (.inFlight 0),
        .told (.log (.loadFinished request.path p.completed p.abandoned))] d₂ := by
  obtain ⟨⟨answer, q⟩, events, d₂, hd, hrecords, hcloses⟩ := p.close_ensures (w := w) d₁
  obtain ⟨rfl, hanswer, hcompleted, habandoned⟩ := hcloses.of_nil hnil
  dsimp only at hanswer hcompleted habandoned
  subst hanswer
  rw [← hcompleted, ← habandoned]
  obtain ⟨⟨⟩, _, d₃, hd', hrecords', rfl⟩ := Ensures.tell (w := w)
    (.log (.loadFinished request.path q.completed q.abandoned)) d₂
  refine ⟨d₃, ?_, hrecords.append hrecords'⟩
  unfold load
  rw [hlimits]
  exact (run_bind h).trans ((run_bind hd).trans (run_bind hd'))

/-- If the patience of the inside runs out, so does the load's. -/
theorem load_of_unfinished (hlimits : policy.limits? request = .ok limits)
    (h : ({ limits } : Pool).loadAll w.environment patience request d = ((.unfinished, p), d₁)) :
    load w.environment patience policy request d = (.unfinished, d₁) := by
  unfold load
  rw [hlimits]
  exact run_bind h

/-- Whatever a load does, it goes on from where the inside has ended, and calls only sessions that
are in flight there. -/
theorem load_goes_on (hlimits : policy.limits? request = .ok limits) {outcome : Outcome Unit}
    (h : ({ limits } : Pool).loadAll w.environment patience request d = ((outcome, p), d₁)) :
    ∃ events, Records w d₁ events (load w.environment patience policy request d).2 ∧
      ∀ e ∈ events, e.Among (sessionsOf p.inFlight) := by
  match outcome with
  | .unfinished =>
      rw [load_of_unfinished hlimits h]
      exact ⟨[], .refl w d₁, by simp⟩
  | .raised fault =>
      obtain ⟨_, _, _, events, hwhole, hrecords, hcloses⟩ := load_of_raised hlimits h
      rw [hwhole]
      exact ⟨events, hrecords, hcloses.among⟩
  | .returned () =>
      obtain ⟨-, hloads, -⟩ := Pool.loadAll_run h
      obtain ⟨_, hwhole, hrecords⟩ := load_of_returned hlimits h hloads.inFlight_eq
      rw [hwhole]
      exact ⟨_, hrecords, by simp [Event.Among]⟩

/-- What a load has recorded shows answers of its world. -/
theorem load_records (hlimits : policy.limits? request = .ok limits) :
    Records w d ((load w.environment patience policy request d).2.eventsSince d.journal.length)
      (load w.environment patience policy request d).2 := by
  obtain ⟨⟨⟨outcome, p⟩, d₁⟩, hinside⟩ :
      ∃ r, ({ limits } : Pool).loadAll w.environment patience request d = r := ⟨_, rfl⟩
  obtain ⟨hrecords, -⟩ := Pool.loadAll_run hinside
  obtain ⟨after, hrecords', -⟩ := load_goes_on hlimits hinside
  rw [(hrecords.append hrecords').eventsSince]
  exact hrecords.append hrecords'

/-- Only a load whose inside returned is finished. -/
theorem load_finished {completed abandoned : Nat}
    (h : (load w.environment patience policy request d).1 = .finished completed abandoned) :
    ∃ limits p d₁, policy.limits? request = .ok limits ∧
      ({ limits } : Pool).loadAll w.environment patience request d = ((.returned (), p), d₁) ∧
      p.inFlight = [] ∧ p.completed = completed ∧ p.abandoned = abandoned := by
  cases hlimits : policy.limits? request with
  | error fault =>
      unfold load at h
      rw [hlimits] at h
      cases h
  | ok limits =>
      obtain ⟨⟨⟨outcome, p⟩, d₁⟩, hinside⟩ :
          ∃ r, ({ limits } : Pool).loadAll w.environment patience request d = r := ⟨_, rfl⟩
      match outcome with
      | .unfinished =>
          rw [load_of_unfinished hlimits hinside] at h
          cases h
      | .raised fault =>
          obtain ⟨_, _, _, _, hwhole, -⟩ := load_of_raised hlimits hinside
          rw [hwhole] at h
          cases h
      | .returned () =>
          obtain ⟨-, hloads, -⟩ := Pool.loadAll_run hinside
          obtain ⟨_, hwhole, -⟩ := load_of_returned hlimits hinside hloads.inFlight_eq
          rw [hwhole] at h
          cases h
          exact ⟨limits, p, d₁, rfl, hinside, hloads.inFlight_eq, rfl, rfl⟩

/-- **The first fault wins, and cleaning up is complete.**  Here `inside` is the walk of a load with
its draining, `before` are its events and `p` is the pool that it leaves; `after` are the events of
leaving the scope of the pool.  Those in flight in between are exactly the sessions that are open.

* If a fault has ended the inside, it is the fault of the load.  All that is still done outside is
  to close each session in flight, once and in order, and the fault that is noted is the first one
  among the answers.
* If the inside has returned, nothing is done outside any more, and the load is finished. -/
theorem first_fault_wins (w : World ω) (patience : Patience) (policy : LoadPolicy)
    (request : LoadRequest) (limits : PoolLimits)
    (hlimits : policy.limits? request = .ok limits) (d : Desk ω) :
    let inside := ({ limits } : Pool).loadAll w.environment patience request d
    let whole := load w.environment patience policy request d
    let p := inside.1.2
    let before := inside.2.eventsSince d.journal.length
    let after := whole.2.eventsSince inside.2.journal.length
    whole.2.eventsSince d.journal.length = before ++ after ∧
    sessionsOf p.inFlight = (openedIn before).filter (fun s => closings s before = 0) ∧
    (∀ fault, inside.1.1 = .raised fault →
      ∃ answers : List (Except Fault Unit), answers.length = p.inFlight.length ∧
        after.filter Event.isOutside = List.zipWith Event.closed (sessionsOf p.inFlight) answers ∧
        whole.1 = .failed fault (answers.findSome? fault?)) ∧
    (inside.1.1 = .returned () →
      after.filter Event.isOutside = [] ∧ whole.1 = .finished p.completed p.abandoned) := by
  intro inside whole p before after
  have hrun : ({ limits } : Pool).loadAll w.environment patience request d =
      ((inside.1.1, p), inside.2) := rfl
  obtain ⟨hrecords, hloads, l, hheld⟩ := Pool.loadAll_run hrun
  refine ⟨?_, l.inFlight_eq hrecords.nodup_openedIn hheld, ?_, ?_⟩
  · obtain ⟨events, hrecords', -⟩ := load_goes_on hlimits hrun
    have hafter : after = events := hrecords'.eventsSince
    rw [hafter]
    exact (hrecords.append hrecords').eventsSince
  · intro fault hfault
    have hinside : ({ limits } : Pool).loadAll w.environment patience request d =
        ((.raised fault, p), inside.2) := by
      rw [← hfault]
      rfl
    obtain ⟨answer, q, d₂, events, hwhole, hrecords', hcloses⟩ := load_of_raised hlimits hinside
    obtain ⟨answers, hlen, hclosed, hfirst⟩ := hcloses.closes_each hheld
    refine ⟨answers, hlen, ?_, ?_⟩
    · show (whole.2.eventsSince _).filter _ = _
      rw [show whole.2 = d₂ from congrArg Prod.snd hwhole, hrecords'.eventsSince, hclosed]
    · rw [← hfirst]
      exact congrArg Prod.fst hwhole
  · intro hreturned
    have hinside : ({ limits } : Pool).loadAll w.environment patience request d =
        ((.returned (), p), inside.2) := by
      rw [← hreturned]
      rfl
    rw [hreturned] at hloads
    obtain ⟨d₂, hwhole, hrecords'⟩ := load_of_returned hlimits hinside hloads.inFlight_eq
    refine ⟨?_, congrArg Prod.fst hwhole⟩
    show (whole.2.eventsSince _).filter _ = _
    rw [show whole.2 = d₂ from congrArg Prod.snd hwhole, hrecords'.eventsSince]
    rfl

/-- The limits under a policy that says nothing. -/
def defaultLimits : PoolLimits where
  capacity := 1000
  submissions := 3
  pollInterval := PoolLimits.clampInterval 0.0
  statusChecks := 16
  capacity_pos := by decide
  submissions_pos := by decide
  statusChecks_pos := by decide

/-- A folder with a file and a folder that is lost; the session for the file cannot be closed. -/
def lostFolder : Rehearsal.Services where
  files := {
    stats := [("/data", .ok { path := "/data", folder := true })]
    listings := [("/data", .ok [{ path := "/data/a" }, { path := "/data/b", folder := true }])] }
  jobs := { closeFaults := [(1, .noCapacity)] }

/-- The walk of `lostFolder` ends at the lost folder, with one session in flight; closing it fails,
and the load still ends with the fault of the walk. -/
theorem first_fault_wins_at_lost_folder :
    ({} : LoadPolicy).limits? { path := "/data" } = .ok defaultLimits ∧
    ∃ answers : List (Except Fault Unit), answers.length = 1 ∧
      (load Rehearsal.Services.world.environment ⟨3, 3⟩ {} { path := "/data" }
        { world := lostFolder }).1 =
          .failed (Rehearsal.FileTable.absent "/data/b") (answers.findSome? fault?) := by
  refine ⟨rfl, ?_⟩
  obtain ⟨-, -, hraised, -⟩ := first_fault_wins Rehearsal.Services.world ⟨3, 3⟩ {}
    { path := "/data" } defaultLimits rfl { world := lostFolder }
  obtain ⟨answers, hlen, -, hwhole⟩ := hraised (Rehearsal.FileTable.absent "/data/b") rfl
  exact ⟨answers, hlen, hwhole⟩

end Leaving

end LoadDispatch
