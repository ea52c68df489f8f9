import LoadDispatch.Proofs.Load.Termination
import LoadDispatch.Proofs.Pool.Asking
import LoadDispatch.Proofs.Pool.Shadow

/-!
# Scheduling and what becomes of files

The capacity of a pool, the time between its passes and the number of queries at once decide when
jobs are submitted and when they are asked about, and in which company.  They decide nothing else:
if every session answers by rules of its own (`SessionRules`), two loads of the same files with the
same submissions for each job come to the same end, whatever the schedule of each.

The first load is known to be finished.  That tells how deep its folders are (`Walks.shallow`), what
the reference prescribes, and which lives its attempts have had (`Chronicle`).  The reference then
tells the second load which job to expect on which session, and the lives of the first are those
that the attempts of the second go through (`countdown_of_record`).
-/

namespace LoadDispatch

/-! ## What a walk that returns tells -/

namespace Pool

section Returned

variable {passes : Nat} {replication : Int} {es : List Errand} {p q : Pool} {events : List Event}
  {m : Metadata}

/-- A walk that returns is made of advances. -/
theorem Walks.advances (h : Walks passes replication es p events (.returned ()) q) :
    Advances p events q := by
  have idle : ∀ (p : Pool) {e : Event}, e.callOn? = none → e.asked? = none → Advances p [e] p :=
    fun p _ hcall hasked => .single (.idle p hcall hasked)
  generalize houtcome : Outcome.returned () = outcome at h
  induction h with
  | done p => exact .refl p
  | tired | lost | unlisted | refused | waiting => cases houtcome
  | leaf _ _ ih => exact (idle _ rfl rfl).trans (ih houtcome)
  | folder _ _ ih => exact (idle _ rfl rfl).trans ((idle _ rfl rfl).trans (ih houtcome))
  | resident _ _ ih => exact (idle _ rfl rfl).trans (ih houtcome)
  | loading _ hadmit _ ih =>
      exact hadmit.advances.trans ((idle _ rfl rfl).trans (ih houtcome))

theorem LoadsAll.advances {patience : Patience} {request : LoadRequest}
    (h : LoadsAll patience request p events (.returned ()) q) : Advances p events q := by
  cases h with
  | walked hwalk hdrain => exact hwalk.advances.trans hdrain.advances
  | aborted _ hearly => exact absurd rfl hearly

/-- A walk that returns has gone down into all folders. -/
theorem Walks.shallow (h : Walks passes replication es p events (.returned ()) q)
    (htells : ∀ e ∈ events, m.Tells e) :
    ∀ depth path, Errand.path depth path ∈ es → m.Shallow depth path := by
  generalize houtcome : Outcome.returned () = outcome at h
  induction h with
  | done => simp
  | tired | lost | unlisted | refused | waiting => cases houtcome
  | @leaf depth path status rest _ _ _ _ hfile _ ih =>
      rw [List.forall_mem_cons] at htells
      have hstat : .ok status = m.stat path := htells.1
      intro d p hmem
      rcases List.mem_cons.mp hmem with heq | hmem
      · cases heq
        -- Below a file there is nothing.
        rintro child ⟨status', _, _, hstat', hfolder, -⟩
        rw [← hstat] at hstat'
        cases hstat'
        rw [hfile] at hfolder
        cases hfolder
      · exact ih htells.2 houtcome d p (List.mem_cons_of_mem _ hmem)
  | @folder depth path status children rest _ _ _ _ hfolder _ ih =>
      rw [List.forall_mem_cons, List.forall_mem_cons] at htells
      have hlist : .ok children = m.list path := htells.2.1
      intro d p hmem
      rcases List.mem_cons.mp hmem with heq | hmem
      · cases heq
        rintro child ⟨_, children', entry, -, -, hlist', hentry, hfolder', rfl⟩
        rw [← hlist] at hlist'
        cases hlist'
        refine ih htells.2.2 houtcome depth entry.path (List.mem_append_left _ ?_)
        exact List.mem_map.mpr ⟨entry, hentry, by rw [Errand.ofChild, if_pos hfolder']⟩
      · exact ih htells.2.2 houtcome d p (List.mem_append_right _ hmem)
  | resident _ _ ih =>
      rw [List.forall_mem_cons] at htells
      intro d p hmem
      exact ih htells.2 houtcome d p (by simpa using hmem)
  | loading _ _ _ ih =>
      intro d p hmem
      refine ih (fun e he => htells e ?_) houtcome d p (by simpa using hmem)
      exact List.mem_append_right _ (List.mem_cons_of_mem _ he)

theorem LoadsAll.shallow {patience : Patience} {request : LoadRequest}
    (h : LoadsAll patience request p events (.returned ()) q) (htells : ∀ e ∈ events, m.Tells e) :
    m.Shallow patience.depth request.path := by
  cases h with
  | walked hwalk _ =>
      exact hwalk.shallow (fun e he => htells e (List.mem_append_left _ he)) _ _
        List.mem_cons_self
  | aborted _ hearly => exact absurd rfl hearly

end Returned

end Pool

/-! ## What the steps of a walk tell -/

/-- The session that a step of a walk asks for. -/
def WalkStep.connects? : WalkStep → Option Session
  | .connect session => some session
  | _ => none

section Steps

variable {seen : List Session} {events : List Event}

/-- The steps of a walk tell which sessions were asked for. -/
theorem filterMap_connects?_walkSteps (seen : List Session) (events : List Event) :
    (walkSteps seen events).filterMap WalkStep.connects? = askedIn events := by
  induction events generalizing seen with
  | nil => rfl
  | cons e rest ih =>
      have hfirst : (e.walkStep? seen).toList.filterMap WalkStep.connects? = askedIn [e] := by
        cases e with
        | submitted session =>
            by_cases hseen : session ∈ seen <;> simp [Event.walkStep?, hseen] <;> rfl
        | told notice => cases notice <;> rfl
        | _ => rfl
      rw [walkSteps, List.filterMap_append, ih, hfirst, ← askedIn_append]
      rfl

/-- A step that submits a job was a submission. -/
theorem submitted_of_run_mem_walkSteps {session : Session} {config : JobConfig}
    (h : .run session config ∈ walkSteps seen events) :
    ∃ answer, .submitted session config answer ∈ events := by
  induction events generalizing seen with
  | nil => cases h
  | cons e rest ih =>
      rw [walkSteps, List.mem_append] at h
      rcases h with h | h
      · cases e with
        | submitted s c answer =>
            by_cases hseen : s ∈ seen
            · simp [Event.walkStep?, hseen] at h
            · simp only [Event.walkStep?, hseen, if_false, Option.toList_some, List.mem_singleton,
                WalkStep.run.injEq] at h
              obtain ⟨rfl, rfl⟩ := h
              exact ⟨answer, List.mem_cons_self⟩
        | told notice => cases notice <;> simp [Event.walkStep?] at h
        | _ => simp [Event.walkStep?] at h
      · obtain ⟨answer, hmem⟩ := ih h
        exact ⟨answer, List.mem_cons_of_mem _ hmem⟩

end Steps

/-! ## Two loads -/

open Pool

section Loads

variable {ω : Type} {w : World ω} {patience : Patience} {policy : LoadPolicy}
  {request : LoadRequest} {limits : PoolLimits} {r q : Pool} {d d₁ : Desk ω} {m : Metadata}
  {rules : SessionRules} {record : List Event} {steps : List WalkStep}

/-- Only a load with a replication has limits. -/
theorem LoadPolicy.one_le_replication (h : policy.limits? request = .ok limits) :
    1 ≤ request.replication := by
  unfold LoadPolicy.limits? at h
  split at h
  · cases h
  · omega

/-- What a load whose inside returns has recorded begins with the record of its inside; what comes
behind it is about no session. -/
theorem whole_of_returned (hlimits : policy.limits? request = .ok limits)
    (h : ({ limits } : Pool).loadAll w.environment patience request d = ((.returned (), r), d₁)) :
    let record := d₁.eventsSince d.journal.length
    let events := (load w.environment patience policy request d).2.eventsSince d.journal.length
    record <+: events ∧ (∀ s, callsOn s events = callsOn s record) ∧
      openedIn events = openedIn record ∧ askedIn events = openedIn events := by
  intro record events
  obtain ⟨hrecords, hloads, -⟩ := loadAll_run h
  obtain ⟨after, hrecords', hamong⟩ := load_goes_on hlimits h
  rw [hloads.inFlight_eq] at hamong
  have hevents : events = record ++ after := (hrecords.append hrecords').eventsSince
  have hopened : openedIn after = [] := openedIn_eq_nil hamong
  have hasked : askedIn after = [] :=
    List.filterMap_eq_nil_iff.mpr fun e he => (hamong e he).asked?_eq_none
  rw [hevents]
  refine ⟨List.prefix_append _ _, fun s => ?_, ?_, ?_⟩
  · rw [callsOn_append, callsOn_eq_nil hamong List.not_mem_nil, List.append_nil]
  · rw [openedIn_append, hopened, List.append_nil]
  · rw [askedIn_append, openedIn_append, hopened, hasked, hloads.advances.askedIn_eq]

/-- A load whose inside returns has a chronicle. -/
theorem chronicle_of_returned
    (h : ({ limits } : Pool).loadAll w.environment patience request d = ((.returned (), r), d₁)) :
    Chronicle (d₁.eventsSince d.journal.length) r ∧ r.limits = limits := by
  obtain ⟨hrecords, hloads, -⟩ := loadAll_run h
  exact ⟨hloads.advances.chronicle (.initial limits) hrecords.nodup_openedIn,
    hloads.moves.limits_eq⟩

/-- A load whose inside returns shows the steps that the reference prescribes, down to the last
folder. -/
theorem reference_of_returned (hlimits : policy.limits? request = .ok limits)
    (h : ({ limits } : Pool).loadAll w.environment patience request d = ((.returned (), r), d₁))
    (hanswers : w.AnswersBy m) :
    m.Shallow patience.depth request.path ∧
      Reference m request.replication d.sessions [.path request.path]
        (walkSteps [] ((load w.environment patience policy request d).2.eventsSince
          d.journal.length)) none := by
  obtain ⟨hrecords, hloads, -⟩ := loadAll_run h
  have hshallow : m.Shallow patience.depth request.path :=
    hloads.shallow fun e he => hanswers.tells (hrecords.given e he)
  obtain ⟨steps, ending, href⟩ : ∃ steps ending,
      Reference m request.replication d.sessions [.path request.path] steps ending :=
    exists_reference_path hshallow (fun n => ⟨[], none, .done n⟩) d.sessions
  rcases load_trail hlimits h hanswers hshallow href with ⟨hsteps, rfl⟩ | ⟨hearly, -⟩
  · exact ⟨hshallow, hsteps ▸ href⟩
  · exact absurd rfl hearly

/-- **The inside of a load returns if its jobs are foretold**, and then everyone has left as is
foretold. -/
theorem returned_of_foretold {outcome : Outcome Unit}
    (h : ({ limits } : Pool).loadAll w.environment patience request d = ((outcome, q), d₁))
    (hanswers : w.AnswersBy m) (hrecord : rules.Obeyed record)
    (hobeyed : rules.Obeyed (d₁.eventsSince d.journal.length))
    (hpasses : sweepsIn record ≤ patience.passes)
    (hshallow : m.Shallow patience.depth request.path)
    (href : Reference m request.replication d.sessions [.path request.path] steps none)
    (hjobs : ∀ session config, .run session config ∈ steps →
      Foretold rules record r limits session config) :
    outcome = .returned () ∧
      Shadows record r limits (sweepsIn record) (d₁.eventsSince d.journal.length) q := by
  obtain ⟨hrecords, hloads, -⟩ := loadAll_run h
  have hA : Ruled rules ([] ++ d₁.eventsSince d.journal.length) :=
    ⟨hrecords.nodup_openedIn, hobeyed⟩
  rcases hloads.returns (countdown_of_record hrecord r limits) (.initial limits) hA hpasses
      hrecords.numbers (fun e he => hanswers.tells (hrecords.given e he)) hshallow href hjobs with
    hreturned | ⟨_, -, _, -, hending⟩
  · exact hreturned
  · cases hending

/-- The jobs of a load whose inside returns are foretold for all that grant as many submissions. -/
theorem foretold_of_returned {limits' : PoolLimits} (hlimits : policy.limits? request = .ok limits)
    (h : ({ limits } : Pool).loadAll w.environment patience request d = ((.returned (), r), d₁))
    (hobeyed : rules.Obeyed (d₁.eventsSince d.journal.length))
    (hgrants : limits'.submissions = limits.submissions) {session : Session} {config : JobConfig}
    (hrun : .run session config ∈ walkSteps []
      ((load w.environment patience policy request d).2.eventsSince d.journal.length)) :
    Foretold rules (d₁.eventsSince d.journal.length) r limits' session config := by
  obtain ⟨-, hcalls, -⟩ := whole_of_returned hlimits h
  obtain ⟨c, rfl⟩ := chronicle_of_returned h
  obtain ⟨-, hloads, -⟩ := loadAll_run h
  obtain ⟨answer, hmem⟩ := submitted_of_run_mem_walkSteps hrun
  have hcall := mem_callsOn.mpr ⟨hmem, rfl⟩
  rw [hcalls session] at hcall
  exact c.foretells hobeyed hloads.inFlight_eq hgrants (mem_callsOn.mp hcall).1

end Loads

section TwoLoads

variable {ω₁ ω₂ : Type} {w₁ : World ω₁} {w₂ : World ω₂} {d₁ d₁' : Desk ω₁} {d₂ d₂' : Desk ω₂}
  {m : Metadata} {rules : SessionRules} {patience₁ patience₂ : Patience}
  {policy₁ policy₂ : LoadPolicy} {request₁ request₂ : LoadRequest} {limits₁ limits₂ : PoolLimits}
  {r q : Pool}

/-- If the inside of one load has returned, so does that of another beside it. -/
theorem returned_beside (hlimits₁ : policy₁.limits? request₁ = .ok limits₁)
    (hinside₁ : ({ limits := limits₁ } : Pool).loadAll w₁.environment patience₁ request₁ d₁ =
      ((.returned (), r), d₁'))
    (hlimits₂ : policy₂.limits? request₂ = .ok limits₂)
    (hgrants : limits₂.submissions = limits₁.submissions)
    (hanswers₁ : w₁.AnswersBy m) (hanswers₂ : w₂.AnswersBy m)
    (hsessions : d₂.sessions = d₁.sessions) (hpath : request₂.path = request₁.path)
    (hreplication : request₂.replication = request₁.replication)
    (hobeyed₁ : rules.Obeyed (d₁'.eventsSince d₁.journal.length))
    (hobeyed₂ : rules.Obeyed
      ((load w₂.environment patience₂ policy₂ request₂ d₂).2.eventsSince d₂.journal.length))
    (hdepth : patience₁.depth ≤ patience₂.depth)
    (hpasses : sweepsIn (d₁'.eventsSince d₁.journal.length) ≤ patience₂.passes) :
    ∃ q d₂', ({ limits := limits₂ } : Pool).loadAll w₂.environment patience₂ request₂ d₂ =
        ((.returned (), q), d₂') ∧
      Shadows (d₁'.eventsSince d₁.journal.length) r limits₂
        (sweepsIn (d₁'.eventsSince d₁.journal.length)) (d₂'.eventsSince d₂.journal.length) q := by
  obtain ⟨hshallow, href⟩ := reference_of_returned hlimits₁ hinside₁ hanswers₁
  rw [← hreplication, ← hsessions, ← hpath] at href
  rw [← hpath] at hshallow
  obtain ⟨⟨⟨outcome, q⟩, d₂'⟩, hinside₂⟩ :
      ∃ x, ({ limits := limits₂ } : Pool).loadAll w₂.environment patience₂ request₂ d₂ = x :=
    ⟨_, rfl⟩
  obtain ⟨hrecords₂, -⟩ := loadAll_run hinside₂
  obtain ⟨after₂, hrecords₂', -⟩ := load_goes_on hlimits₂ hinside₂
  rw [(hrecords₂.append hrecords₂').eventsSince] at hobeyed₂
  obtain ⟨rfl, hshadows⟩ := returned_of_foretold hinside₂ hanswers₂ hobeyed₁ hobeyed₂.left hpasses
    (hshallow.mono hdepth) href
    fun _ _ => foretold_of_returned hlimits₁ hinside₁ hobeyed₁ hgrants
  exact ⟨q, d₂', hinside₂, hshadows⟩

/-- Two loads of one root whose insides have returned show the same steps, and have opened the same
sessions. -/
theorem steps_of_returned (hlimits₁ : policy₁.limits? request₁ = .ok limits₁)
    (hinside₁ : ({ limits := limits₁ } : Pool).loadAll w₁.environment patience₁ request₁ d₁ =
      ((.returned (), r), d₁'))
    (hlimits₂ : policy₂.limits? request₂ = .ok limits₂)
    (hinside₂ : ({ limits := limits₂ } : Pool).loadAll w₂.environment patience₂ request₂ d₂ =
      ((.returned (), q), d₂'))
    (hanswers₁ : w₁.AnswersBy m) (hanswers₂ : w₂.AnswersBy m)
    (hsessions : d₂.sessions = d₁.sessions) (hpath : request₂.path = request₁.path)
    (hreplication : request₂.replication = request₁.replication) :
    let events₁ :=
      (load w₁.environment patience₁ policy₁ request₁ d₁).2.eventsSince d₁.journal.length
    let events₂ :=
      (load w₂.environment patience₂ policy₂ request₂ d₂).2.eventsSince d₂.journal.length
    walkSteps [] events₂ = walkSteps [] events₁ ∧ openedIn events₂ = openedIn events₁ := by
  intro events₁ events₂
  obtain ⟨-, href₁⟩ := reference_of_returned hlimits₁ hinside₁ hanswers₁
  obtain ⟨-, href₂⟩ := reference_of_returned hlimits₂ hinside₂ hanswers₂
  rw [hreplication, hsessions, hpath] at href₂
  have hsteps : walkSteps [] events₂ = walkSteps [] events₁ := (href₁.unique href₂).1
  obtain ⟨-, -, -, hasked₁⟩ := whole_of_returned hlimits₁ hinside₁
  obtain ⟨-, -, -, hasked₂⟩ := whole_of_returned hlimits₂ hinside₂
  refine ⟨hsteps, ?_⟩
  -- The steps tell which sessions were asked for, and all of these were opened.
  calc openedIn events₂ = askedIn events₂ := hasked₂.symm
    _ = askedIn events₁ := by
      rw [← filterMap_connects?_walkSteps [], hsteps, filterMap_connects?_walkSteps]
    _ = openedIn events₁ := hasked₁

end TwoLoads

/-- The same services, but all jobs are given one number. -/
def World.renumbered {ω : Type} (w : World ω) (job : Int) : World ω :=
  { w with
    submit := fun session config s =>
      let (answer, s) := w.submit session config s
      (answer.map (Option.map fun _ => job), s) }

/-- The rules of services whose answers never change. -/
def SessionRules.steady (verdict : Session → JobStatus) : SessionRules where
  connect _ := .ok ()
  submit _ _ _ := .ok true
  poll session _ := .ok (.known (verdict session))
  close _ _ := .ok ()

/-- Steady services answer by their rules, whatever number they give to jobs. -/
theorem obeyed_of_steady {m : Metadata} {verdict : Session → JobStatus} {job : Int}
    {events : List Event} (h : ∀ e ∈ events, ((World.steady m verdict).renumbered job).Gives e) :
    (SessionRules.steady verdict).Obeyed events := by
  refine ⟨fun s answer hmem => ?_, fun s before e hcalls => ?_⟩
  · obtain ⟨_, rfl⟩ := h _ hmem
    rfl
  · have hmem : e ∈ callsOn s events := hcalls.subset (List.mem_append_right _ List.mem_cons_self)
    obtain ⟨hmem, hcall⟩ := mem_callsOn.mp hmem
    have hgives := h e hmem
    cases e with
    | submitted | polled | closed =>
        cases hcall
        obtain ⟨_, rfl⟩ := hgives
        rfl
    | _ => trivial

/-- A policy that admits one job at a time, asks about one at a time, and takes its time. -/
def oneByOne : LoadPolicy where
  maxActiveJobs := 1
  pollInterval := 2.0
  statusChecks := 1

/-- An attempt in flight on a session, whose job has a number. -/
def attemptOn (n : Nat) : Attempt :=
  { fresh defaultLimits ⟨n⟩ { path := "/data" } with jobId := some 1 }

end LoadDispatch
