import LoadDispatch.Proofs.Load.Cleanup
import LoadDispatch.Proofs.Load.Reference

/-!
# A load follows the reference

What a load shows of its walk, among all the events of its pool, is what the metadata prescribe: a
part of the reference from its beginning, and all of it unless the load ended inside the steps for
a file that needs a job.

Two things have to be told apart in the events.  The steps of the walk (`walkSteps`) include only
the first submission on each session, so reading them off needs the sessions on which a job was
submitted before (`submittedOn`).  And whatever the pool does between two steps has to be invisible:
it calls only sessions in flight, and a job was submitted on each of those.  This is the invariant
`Scene`, which also keeps the next session number ahead of all that were used.
-/

namespace LoadDispatch

/-! ## Reading the steps off -/

/-- The step of a walk that an event shows, given the sessions on which a job was submitted. -/
def Event.walkStep? (seen : List Session) : Event → Option WalkStep
  | .statted path _ => some (.stat path)
  | .listed path _ => some (.list path)
  | .opened session _ => some (.connect session)
  | .submitted session config _ => if session ∈ seen then none else some (.run session config)
  | .told (.progress step) => some (.report step.line)
  | _ => none

/-- The sessions on which a job was submitted, with that of an event. -/
def Event.mark (seen : List Session) : Event → List Session
  | .submitted session _ _ => if session ∈ seen then seen else session :: seen
  | _ => seen

/-- The steps of a walk that events show. -/
def walkSteps : List Session → List Event → List WalkStep
  | _, [] => []
  | seen, e :: rest => (e.walkStep? seen).toList ++ walkSteps (e.mark seen) rest

/-- The sessions on which a job was submitted, with those of events. -/
def submittedOn (seen : List Session) (events : List Event) : List Session :=
  events.foldl Event.mark seen

/-- The sessions that are asked for are numbered on from `n`. -/
def Numbered (n : Nat) (events : List Event) : Prop :=
  (askedIn events).map (·.number) = List.range' (n + 1) (askedIn events).length

/-- What events show of a walk, begun behind `n` sessions with those in `seen` submitted on: its
steps, and where it has got to. -/
structure Trail (n : Nat) (seen : List Session) (events : List Event) (steps : List WalkStep)
    (n' : Nat) (seen' : List Session) : Prop where
  /-- The steps that are shown. -/
  steps : walkSteps seen events = steps
  /-- The sessions on which a job was submitted by then. -/
  seen : submittedOn seen events = seen'
  /-- The sessions that were asked for by then. -/
  count : n + (askedIn events).length = n'

/-- Each session in flight was submitted on, and the next session number is new. -/
structure Scene (n : Nat) (seen : List Session) (p : Pool) : Prop where
  /-- Each session in flight was submitted on. -/
  inFlight : sessionsOf p.inFlight ⊆ seen
  /-- The sessions submitted on have numbers up to `n`. -/
  numbers : ∀ s ∈ seen, s.number ≤ n

/-- With fewer in flight the scene is the same. -/
theorem Scene.sub {n : Nat} {seen : List Session} {p q : Pool} (h : Scene n seen p)
    (hsub : (sessionsOf q.inFlight).Sublist (sessionsOf p.inFlight)) : Scene n seen q :=
  ⟨fun _ hs => h.inFlight (hsub.subset hs), h.numbers⟩

section Trail

variable {n n' n'' : Nat} {seen seen' seen'' ss : List Session} {xs ys : List Event}
  {steps steps' : List WalkStep}

theorem walkSteps_append : walkSteps seen (xs ++ ys) =
    walkSteps seen xs ++ walkSteps (submittedOn seen xs) ys := by
  induction xs generalizing seen with
  | nil => rfl
  | cons e rest ih =>
      rw [List.cons_append, walkSteps, walkSteps, ih, List.append_assoc]
      rfl

theorem Numbered.left (h : Numbered n (xs ++ ys)) : Numbered n xs := by
  rw [Numbered, askedIn_append, List.map_append, List.length_append,
    ← List.range'_append_1] at h
  exact (List.append_inj h (by simp)).1

theorem Numbered.right (h : Numbered n (xs ++ ys)) : Numbered (n + (askedIn xs).length) ys := by
  rw [Numbered, askedIn_append, List.map_append, List.length_append,
    ← List.range'_append_1] at h
  rw [Numbered, Nat.add_right_comm]
  exact (List.append_inj h (by simp)).2

theorem Numbered.head {session : Session} {answer : Except Fault Unit}
    (h : Numbered n (.opened session answer :: xs)) : session = ⟨n + 1⟩ := by
  have hnumber : session.number = n + 1 := (List.cons.inj h).1
  exact congrArg Session.mk hnumber

namespace Trail

theorem append (h : Trail n seen xs steps n' seen') (h' : Trail n' seen' ys steps' n'' seen'') :
    Trail n seen (xs ++ ys) (steps ++ steps') n'' seen'' := by
  refine ⟨?_, ?_, ?_⟩
  · rw [walkSteps_append, h.steps, h.seen, h'.steps]
  · rw [submittedOn, List.foldl_append]
    show submittedOn (submittedOn seen xs) ys = _
    rw [h.seen, h'.seen]
  · rw [askedIn_append, List.length_append, ← Nat.add_assoc, h.count, h'.count]

/-- What comes behind a trail is numbered on from there. -/
theorem numbered (h : Trail n seen xs steps n' seen') (hn : Numbered n (xs ++ ys)) :
    Numbered n' ys :=
  h.count ▸ hn.right

/-- One event that asks for no session and submits nothing. -/
theorem single {e : Event} (hmark : e.mark seen = seen) (hasked : e.asked? = none) :
    Trail n seen [e] (e.walkStep? seen).toList n seen := by
  refine ⟨List.append_nil _, hmark, ?_⟩
  rw [askedIn, List.filterMap_cons, hasked]
  rfl

/-- What a pool does between two openings is invisible. -/
theorem of_among (h : ∀ e ∈ xs, e.Among ss) (hseen : ss ⊆ seen) :
    Trail n seen xs [] n seen := by
  induction xs with
  | nil => exact ⟨rfl, rfl, rfl⟩
  | cons e rest ih =>
      rw [List.forall_mem_cons] at h
      have hrest := ih h.2
      have hstep : e.walkStep? seen = none ∧ e.mark seen = seen ∧ e.asked? = none := by
        have he := h.1
        cases e with
        | submitted session =>
            have hmem : session ∈ seen := hseen he
            exact ⟨if_pos hmem, if_pos hmem, rfl⟩
        | told notice =>
            cases notice with
            | progress => exact he.elim
            | _ => exact ⟨rfl, rfl, rfl⟩
        | opened | statted | listed => exact he.elim
        | _ => exact ⟨rfl, rfl, rfl⟩
      have hfirst : Trail n seen [e] (e.walkStep? seen).toList n seen :=
        .single hstep.2.1 hstep.2.2
      rw [hstep.1] at hfirst
      exact hfirst.append hrest

end Trail

end Trail

/-! ## Admitting a job -/

namespace Pool

section Admission

variable {n : Nat} {seen : List Session} {p q : Pool} {events : List Event} {passes : Nat}
  {config : JobConfig}

/-- Placing a job asks for one session and, if there is one, submits the job on it. -/
theorem Places.trail {answer : Except Fault Attempt} (h : Places config p events answer q)
    (hscene : Scene n seen p) (hn : Numbered n events) :
    (∃ fault, answer = .error fault ∧ Scene (n + 1) seen q ∧
      Trail n seen events [.connect ⟨n + 1⟩] (n + 1) seen) ∨
    (Scene (n + 1) (⟨n + 1⟩ :: seen) q ∧
      Trail n seen events [.connect ⟨n + 1⟩, .run ⟨n + 1⟩ config] (n + 1) (⟨n + 1⟩ :: seen)) := by
  have hnumbers : ∀ s ∈ seen, s.number ≤ n + 1 := fun s hs => (hscene.numbers s hs).trans n.le_succ
  rcases h.opens with ⟨session, fault, rfl, hanswer, rfl⟩ |
      ⟨session, count, reply, more, a, rfl, hmore, hlives, -, -, rfl⟩
  · obtain rfl := hn.head
    exact .inl ⟨fault, hanswer, ⟨hscene.inFlight, hnumbers⟩, ⟨rfl, rfl, rfl⟩⟩
  · obtain rfl := hn.head
    have hnew : (⟨n + 1⟩ : Session) ∉ seen := fun hmem =>
      absurd (hscene.numbers _ hmem) (Nat.not_succ_le_self n)
    have hamong : ∀ e ∈ more, e.Among [] := by
      intro e he
      obtain ⟨entry, rfl⟩ := hmore e he
      exact trivial
    refine .inr ⟨⟨?_, ?_⟩, ?_⟩
    · rw [sessionsOf_append, List.append_subset, sessionsOf_cons, hlives.course.session_eq]
      exact ⟨List.subset_cons_of_subset _ hscene.inFlight, by simp⟩
    · intro s hs
      rcases List.mem_cons.mp hs with rfl | hs
      · exact Nat.le_refl _
      · exact hnumbers s hs
    · -- The session is new, so the submission is the first one on it and is shown.
      have hfirst : Trail n seen [.opened ⟨n + 1⟩ (.ok ()), .told (.inFlight count),
          .submitted ⟨n + 1⟩ config reply] [.connect ⟨n + 1⟩, .run ⟨n + 1⟩ config] (n + 1)
          (⟨n + 1⟩ :: seen) := by
        refine ⟨?_, ?_, rfl⟩
        · simp [walkSteps, Event.walkStep?, Event.mark, hnew]
        · simp [submittedOn, Event.mark, hnew]
      exact hfirst.append (.of_among hamong (List.nil_subset _))

/-- Admitting a job shows all of its steps but the report, or fewer if it ends early. -/
theorem Admits.trail {replication : Int} {path : String} {outcome : Outcome Attempt}
    (h : Admits passes { path, replication } p events outcome q)
    (hscene : Scene n seen p) (hn : Numbered n events) :
    ∃ k n' seen', k < 3 ∧ Scene n' seen' q ∧
      Trail n seen events ((jobSteps replication n path).take k) n' seen' ∧
      ∀ a, outcome = .returned a → k = 2 ∧ n' = n + 1 := by
  cases h with
  | atOnce _ hplace =>
      rcases hplace.trail hscene hn with ⟨fault, rfl, hscene', htrail⟩ | ⟨hscene', htrail⟩
      · exact ⟨1, _, _, by omega, hscene', htrail, by rintro a ⟨⟩⟩
      · exact ⟨2, _, _, by omega, hscene', htrail, fun _ _ => ⟨rfl, rfl⟩⟩
  | waited _ hwait hplace =>
      obtain ⟨hamong, hsub⟩ := hwait.among
      have hquiet : Trail n seen _ [] n seen := .of_among hamong hscene.inFlight
      rcases hplace.trail (hscene.sub hsub) (hquiet.numbered hn) with
        ⟨fault, rfl, hscene', htrail⟩ | ⟨hscene', htrail⟩
      · exact ⟨1, _, _, by omega, hscene', hquiet.append htrail, by rintro a ⟨⟩⟩
      · exact ⟨2, _, _, by omega, hscene', hquiet.append htrail, fun _ _ => ⟨rfl, rfl⟩⟩
  | broken _ hwait =>
      obtain ⟨hamong, hsub⟩ := hwait.among
      exact ⟨0, n, seen, by omega, hscene.sub hsub, .of_among hamong hscene.inFlight,
        by rintro a ⟨⟩⟩
  | unfinished _ hwait =>
      obtain ⟨hamong, hsub⟩ := hwait.among
      exact ⟨0, n, seen, by omega, hscene.sub hsub, .of_among hamong hscene.inFlight,
        by rintro a ⟨⟩⟩

end Admission

end Pool

/-! ## The walk -/

/-- The steps are cut off inside those for a file that needs a job. -/
def CutInJob (replication : Int) (trace steps : List WalkStep) : Prop :=
  ∃ before n path rest k, k < 3 ∧ steps = before ++ (jobSteps replication n path ++ rest) ∧
    trace = before ++ (jobSteps replication n path).take k

/-- How the trace of a walk stands to the steps that are prescribed, depending on how it ends. -/
inductive Follows (replication : Int) (steps : List WalkStep) (ending : Option Fault) :
    List WalkStep → Outcome Unit → Prop where
  /-- All steps are done. -/
  | whole : ending = none → Follows replication steps ending steps (.returned ())
  /-- All steps are done, and the last one was a fault of the metadata. -/
  | lost {fault : Fault} : ending = some fault →
    Follows replication steps ending steps (.raised fault)
  /-- The pool has ended the walk. -/
  | cut {trace : List WalkStep} {outcome : Outcome Unit} : outcome ≠ .returned () →
    CutInJob replication trace steps → Follows replication steps ending trace outcome

theorem CutInJob.isPrefix {replication : Int} {trace steps : List WalkStep}
    (h : CutInJob replication trace steps) : trace <+: steps := by
  obtain ⟨before, n, path, rest, k, -, rfl, rfl⟩ := h
  rw [List.prefix_append_right_inj]
  exact (List.take_prefix _ _).trans (List.prefix_append _ _)

/-- What is cut off is not the whole. -/
theorem CutInJob.ne {replication : Int} {trace steps : List WalkStep}
    (h : CutInJob replication trace steps) : trace ≠ steps := by
  obtain ⟨before, n, path, rest, k, hk, rfl, rfl⟩ := h
  intro heq
  have hlength := congrArg List.length (List.append_cancel_left heq)
  have hjob : (jobSteps replication n path).length = 3 := rfl
  rw [List.length_take, List.length_append, hjob] at hlength
  omega

theorem Follows.whole_or_cut {replication : Int} {steps trace : List WalkStep}
    {ending : Option Fault} {outcome : Outcome Unit}
    (h : Follows replication steps ending trace outcome) :
    trace = steps ∨ CutInJob replication trace steps := by
  cases h with
  | whole | lost => exact .inl rfl
  | cut _ hcut => exact .inr hcut

theorem Follows.prepend {replication : Int} {steps trace : List WalkStep} {ending : Option Fault}
    {outcome : Outcome Unit} (h : Follows replication steps ending trace outcome)
    (earlier : List WalkStep) :
    Follows replication (earlier ++ steps) ending (earlier ++ trace) outcome := by
  cases h with
  | whole hending => exact .whole hending
  | lost hending => exact .lost hending
  | cut hearly hcut =>
      obtain ⟨before, n, path, rest, k, hk, rfl, rfl⟩ := hcut
      refine .cut hearly ⟨earlier ++ before, n, path, rest, k, hk, ?_, ?_⟩
      · rw [List.append_assoc]
      · rw [List.append_assoc]

/-- The answers about metadata are those of a fixed function. -/
structure World.AnswersBy {ω : Type} (w : World ω) (m : Metadata) : Prop where
  /-- The metadata of a path are the same at all times. -/
  stat : ∀ path s, (w.stat path s).1 = m.stat path
  /-- The listing of a folder is the same at all times. -/
  list : ∀ path s, (w.list path s).1 = m.list path

/-- An event about metadata shows the answer of a fixed function. -/
def Metadata.Tells (m : Metadata) : Event → Prop
  | .statted path answer => answer = m.stat path
  | .listed path answer => answer = m.list path
  | _ => True

theorem World.AnswersBy.tells {ω : Type} {w : World ω} {m : Metadata} (h : w.AnswersBy m)
    {e : Event} (he : w.Gives e) : m.Tells e := by
  cases e with
  | statted path answer =>
      obtain ⟨s, rfl⟩ := he
      exact h.stat path s
  | listed path answer =>
      obtain ⟨s, rfl⟩ := he
      exact h.list path s
  | _ => exact trivial

/-- What an errand is a visit to. -/
def Errand.visit : Errand → Visit
  | .path _ name => .path name
  | .file status => .file status

theorem map_visit_ofChild (depth : Nat) (children : List FileStatus) :
    (children.map (Errand.ofChild depth)).map Errand.visit = children.map Visit.ofChild := by
  rw [List.map_map]
  refine List.map_congr_left fun child _ => ?_
  show (Errand.ofChild depth child).visit = _
  cases hfolder : child.folder <;> simp [Errand.ofChild, Visit.ofChild, Errand.visit, hfolder]

/-- The patience for a folder is enough for all that stands in its listing. -/
theorem Metadata.Shallow.of_mem_children {m : Metadata} {depth depth' : Nat} {path path' : String}
    {status : FileStatus} {children : List FileStatus} (h : m.Shallow (depth + 1) path)
    (hstat : m.stat path = .ok status) (hfolder : status.folder = true)
    (hlist : m.list path = .ok children)
    (hmem : Errand.path depth' path' ∈ children.map (.ofChild depth)) :
    m.Shallow depth' path' := by
  obtain ⟨child, hchild, heq⟩ := List.mem_map.mp hmem
  unfold Errand.ofChild at heq
  split at heq
  · next hentry =>
      cases heq
      exact h _ ⟨status, children, child, hstat, hfolder, hlist, hchild, hentry, rfl⟩
  · cases heq

/-- If a job is not admitted, the steps for its file are cut off. -/
theorem Pool.Admits.trail_cut {passes : Nat} {replication : Int} {status : FileStatus}
    {p q : Pool} {events : List Event} {outcome : Outcome Attempt} {m : Metadata} {n : Nat}
    {seen : List Session} {rest : List Visit} {steps : List WalkStep} {ending : Option Fault}
    (h : Pool.Admits passes { path := status.path, replication } p events outcome q)
    (hres : status.fullyResident = false) (hscene : Scene n seen p) (hn : Numbered n events)
    (href : Reference m replication n (.file status :: rest) steps ending)
    {early : Outcome Unit} (hearly : early ≠ .returned ()) :
    ∃ trace n' seen', Trail n seen events trace n' seen' ∧ Scene n' seen' q ∧
      Follows replication steps ending trace early := by
  have hneeded : status.residency < 100 := by
    simpa [FileStatus.fullyResident] using hres
  obtain ⟨more, rfl, -⟩ := href.of_load hneeded
  obtain ⟨k, n₁, seen₁, hk, hscene₁, htrail, -⟩ := h.trail hscene hn
  exact ⟨_, n₁, seen₁, htrail, hscene₁, .cut hearly ⟨[], n, status.path, more, k, hk, rfl, rfl⟩⟩

/-- **A walk follows the reference.**  The induction is over the walk; the reference is taken apart
beside it, and the scene says that the pool stays out of sight. -/
theorem Pool.Walks.trail {passes : Nat} {replication : Int} {es : List Errand} {p q : Pool}
    {events : List Event} {outcome : Outcome Unit} {m : Metadata} {n : Nat} {seen : List Session}
    {steps : List WalkStep} {ending : Option Fault}
    (h : Pool.Walks passes replication es p events outcome q) (hscene : Scene n seen p)
    (hn : Numbered n events) (htells : ∀ e ∈ events, m.Tells e)
    (hshallow : ∀ depth path, Errand.path depth path ∈ es → m.Shallow depth path)
    (href : Reference m replication n (es.map Errand.visit) steps ending) :
    ∃ trace n' seen', Trail n seen events trace n' seen' ∧ Scene n' seen' q ∧
      Follows replication steps ending trace outcome := by
  induction h generalizing n seen steps with
  | done p =>
      cases href
      exact ⟨[], n, seen, ⟨rfl, rfl, rfl⟩, hscene, .whole rfl⟩
  | tired path rest p => exact (hshallow 0 path List.mem_cons_self).elim
  | lost depth path rest fault p =>
      have hstat : .error fault = m.stat path := htells _ List.mem_cons_self
      obtain ⟨rfl, rfl⟩ := href.of_lost hstat.symm
      exact ⟨_, n, seen, .single rfl rfl, hscene, .lost rfl⟩
  | @leaf depth path status rest _ _ _ _ hfile _ ih =>
      rw [List.forall_mem_cons] at htells
      have hstat : .ok status = m.stat path := htells.1
      obtain ⟨more, rfl, hrest⟩ := href.of_leaf hstat.symm hfile
      have hfirst : Trail n seen [.statted path (.ok status)] [.stat path] n seen :=
        .single rfl rfl
      obtain ⟨trace, n', seen', htrail, hscene', hfollows⟩ :=
        ih hscene (hfirst.numbered hn) htells.2
          (fun d p hmem => hshallow d p (List.mem_cons_of_mem _ (by simpa using hmem))) hrest
      exact ⟨_, n', seen', hfirst.append htrail, hscene', hfollows.prepend [.stat path]⟩
  | @unlisted depth path status rest fault p hfolder =>
      rw [List.forall_mem_cons, List.forall_mem_cons] at htells
      have hstat : .ok status = m.stat path := htells.1
      have hlist : .error fault = m.list path := htells.2.1
      obtain ⟨rfl, rfl⟩ := href.of_unlisted hstat.symm hfolder hlist.symm
      exact ⟨_, n, seen, ⟨rfl, rfl, rfl⟩, hscene, .lost rfl⟩
  | @folder depth path status children rest _ _ _ _ hfolder _ ih =>
      rw [List.forall_mem_cons, List.forall_mem_cons] at htells
      have hstat : .ok status = m.stat path := htells.1
      have hlist : .ok children = m.list path := htells.2.1
      obtain ⟨more, rfl, hrest⟩ := href.of_folder hstat.symm hfolder hlist.symm
      rw [← map_visit_ofChild depth children, ← List.map_append] at hrest
      have hfirst : Trail n seen [.statted path (.ok status), .listed path (.ok children)]
          [.stat path, .list path] n seen := ⟨rfl, rfl, rfl⟩
      have hbelow : ∀ d p, Errand.path d p ∈ children.map (.ofChild depth) ++ rest →
          m.Shallow d p := by
        intro d p hmem
        rcases List.mem_append.mp hmem with hmem | hmem
        · exact (hshallow _ path List.mem_cons_self).of_mem_children hstat.symm hfolder hlist.symm
            hmem
        · exact hshallow d p (List.mem_cons_of_mem _ hmem)
      obtain ⟨trace, n', seen', htrail, hscene', hfollows⟩ :=
        ih hscene (hfirst.numbered hn) htells.2.2 hbelow hrest
      exact ⟨_, n', seen', hfirst.append htrail, hscene',
        hfollows.prepend [.stat path, .list path]⟩
  | @resident status rest _ _ _ _ hres _ ih =>
      rw [List.forall_mem_cons] at htells
      obtain ⟨more, rfl, hrest⟩ := href.of_resident (by simpa [FileStatus.fullyResident] using hres)
      have hfirst : Trail n seen [.told (.progress (.alreadyLoaded status.path))]
          [.report (Progress.alreadyLoaded status.path).line] n seen := .single rfl rfl
      obtain ⟨trace, n', seen', htrail, hscene', hfollows⟩ :=
        ih hscene (hfirst.numbered hn) htells.2
          (fun d p hmem => hshallow d p (List.mem_cons_of_mem _ hmem)) hrest
      exact ⟨_, n', seen', hfirst.append htrail, hscene', hfollows.prepend [_]⟩
  | @loading status rest _ _ _ xs ys a _ hres hadmit _ ih =>
      have hneeded : status.residency < 100 := by
        simpa [FileStatus.fullyResident] using hres
      obtain ⟨more, rfl, hrest⟩ := href.of_load hneeded
      obtain ⟨k, n₁, seen₁, -, hscene₁, hfirst, hk⟩ := hadmit.trail hscene hn.left
      -- The admission has returned, so only the report is missing, and that comes next.
      obtain ⟨rfl, rfl⟩ := hk a rfl
      have hreport : Trail (n + 1) seen₁ [.told (.progress (.loading status.path))]
          [.report (Progress.loading status.path).line] (n + 1) seen₁ := .single rfl rfl
      have hjob : Trail n seen (xs ++ [.told (.progress (.loading status.path))])
          (jobSteps replication n status.path) (n + 1) seen₁ := hfirst.append hreport
      rw [List.append_cons] at hn htells ⊢
      obtain ⟨trace, n', seen', htrail, hscene', hfollows⟩ :=
        ih hscene₁ (hjob.numbered hn) (fun e he => htells e (List.mem_append_right _ he))
          (fun d p hmem => hshallow d p (List.mem_cons_of_mem _ hmem)) hrest
      exact ⟨_, n', seen', hjob.append htrail, hscene', hfollows.prepend _⟩
  | refused _ hres hadmit => exact hadmit.trail_cut hres hscene hn href (by simp)
  | waiting _ hres hadmit => exact hadmit.trail_cut hres hscene hn href (by simp)

/-! ## The load -/

/-- The inside of a load follows the reference: with all of its steps, or with those up to where
its walk has ended. -/
theorem Pool.LoadsAll.trail {patience : Patience} {request : LoadRequest} {p q : Pool}
    {events : List Event} {outcome : Outcome Unit} {m : Metadata} {n : Nat} {seen : List Session}
    {steps : List WalkStep} {ending : Option Fault}
    (h : Pool.LoadsAll patience request p events outcome q) (hscene : Scene n seen p)
    (hn : Numbered n events) (htells : ∀ e ∈ events, m.Tells e)
    (hshallow : m.Shallow patience.depth request.path)
    (href : Reference m request.replication n [.path request.path] steps ending) :
    ∃ trace n' seen', Trail n seen events trace n' seen' ∧ Scene n' seen' q ∧
      ((trace = steps ∧ ending = none) ∨
        (outcome ≠ .returned () ∧ Follows request.replication steps ending trace outcome)) := by
  have hpaths : ∀ depth path, Errand.path depth path ∈ [Errand.path patience.depth request.path] →
      m.Shallow depth path := by
    intro depth path hmem
    cases List.mem_singleton.mp hmem
    exact hshallow
  cases h with
  | walked hwalk hdrain =>
      obtain ⟨trace, n', seen', htrail, hscene', hfollows⟩ := hwalk.trail hscene hn.left
        (fun e he => htells e (List.mem_append_left _ he)) hpaths href
      obtain ⟨hamong, hsub⟩ := hdrain.among
      have hquiet := htrail.append (.of_among hamong hscene'.inFlight)
      rw [List.append_nil] at hquiet
      refine ⟨trace, n', seen', hquiet, hscene'.sub hsub, .inl ?_⟩
      cases hfollows with
      | whole hending => exact ⟨rfl, hending⟩
      | cut hearly => exact absurd rfl hearly
  | aborted hwalk hearly =>
      obtain ⟨trace, n', seen', htrail, hscene', hfollows⟩ :=
        hwalk.trail hscene hn htells hpaths href
      exact ⟨trace, n', seen', htrail, hscene', .inr ⟨hearly, hfollows⟩⟩

/-- A load with a replication and a capacity has limits. -/
theorem exists_limits {policy : LoadPolicy} {request : LoadRequest}
    (hreplication : 1 ≤ request.replication)
    (hcapacity : 1 ≤ request.maxActiveJobs.getD policy.maxActiveJobs) :
    ∃ limits, policy.limits? request = .ok limits := by
  unfold LoadPolicy.limits? PoolLimits.ofRequest?
  rw [if_neg (by omega), dif_pos hcapacity]
  exact ⟨_, rfl⟩

/-- What a load shows of its walk is what its inside shows: leaving the scope of the pool shows no
step any more. -/
theorem load_trail {ω : Type} {w : World ω} {patience : Patience} {policy : LoadPolicy}
    {request : LoadRequest} {limits : PoolLimits} {outcome : Outcome Unit} {p : Pool}
    {d d₁ : Desk ω} {m : Metadata} {steps : List WalkStep} {ending : Option Fault}
    (hlimits : policy.limits? request = .ok limits)
    (hinside : ({ limits } : Pool).loadAll w.environment patience request d = ((outcome, p), d₁))
    (hanswers : w.AnswersBy m) (hshallow : m.Shallow patience.depth request.path)
    (href : Reference m request.replication d.sessions [.path request.path] steps ending) :
    let trace := walkSteps []
      ((load w.environment patience policy request d).2.eventsSince d.journal.length)
    (trace = steps ∧ ending = none) ∨
      (outcome ≠ .returned () ∧ Follows request.replication steps ending trace outcome) := by
  intro trace
  obtain ⟨hrecords, hloads, -⟩ := Pool.loadAll_run hinside
  obtain ⟨after, hrecords', hamong⟩ := load_goes_on hlimits hinside
  have hscene : Scene d.sessions [] { limits } := ⟨List.Subset.refl _, by simp⟩
  obtain ⟨trace', n', seen', htrail, hscene', hfollows⟩ := hloads.trail hscene hrecords.numbers
    (fun e he => hanswers.tells (hrecords.given e he)) hshallow href
  have htrace : trace = trace' := by
    have hquiet := htrail.append (.of_among hamong hscene'.inFlight)
    show walkSteps [] (Desk.eventsSince _ _) = _
    rw [(hrecords.append hrecords').eventsSince, hquiet.steps, List.append_nil]
  rw [htrace]
  exact hfollows

/-- **A load follows the reference.**  Let the folders below a root be finitely many, and none of
them below itself.  Then the metadata prescribe one sequence of steps, and in every world that
answers by them, a load of the root with patience for its depth shows, behind any `n` sessions:

* a part of these steps from their beginning, which is all of them unless it is cut off inside the
  steps for a file that needs a job;
* all of them if the load is finished, and then they end without a fault;
* and if all are shown and they end with a fault, the load fails with it. -/
theorem load_follows_reference (m : Metadata) (root : String) (replication : Int)
    (hfinite : {path | Relation.ReflTransGen m.Below root path}.Finite)
    (hacyclic : ∀ path, Relation.ReflTransGen m.Below root path →
      ¬ Relation.TransGen m.Below path path) (n : Nat) :
    ∃ steps ending depth, Reference m replication n [.path root] steps ending ∧
      (∀ steps' ending', Reference m replication n [.path root] steps' ending' →
        steps' = steps ∧ ending' = ending) ∧
      ∀ {ω : Type} (w : World ω) (d : Desk ω) (patience : Patience) (policy : LoadPolicy)
        (request : LoadRequest), w.AnswersBy m → d.sessions = n → depth ≤ patience.depth →
        request.path = root → request.replication = replication → 1 ≤ replication →
        1 ≤ request.maxActiveJobs.getD policy.maxActiveJobs →
        let result := load w.environment patience policy request d
        let trace := walkSteps [] (result.2.eventsSince d.journal.length)
        trace <+: steps ∧
        (trace = steps ∨ CutInJob replication trace steps) ∧
        (∀ completed abandoned, result.1 = .finished completed abandoned →
          trace = steps ∧ ending = none) ∧
        (∀ fault, trace = steps → ending = some fault →
          ∃ closing, result.1 = .failed fault closing) := by
  obtain ⟨depth, hshallow⟩ := Metadata.exists_shallow hfinite hacyclic
  obtain ⟨steps, ending, href⟩ :
      ∃ steps ending, Reference m replication n [.path root] steps ending :=
    exists_reference_path hshallow (fun n => ⟨[], none, .done n⟩) n
  refine ⟨steps, ending, depth, href, fun _ _ => href.unique, ?_⟩
  rintro ω w d patience policy request hanswers rfl hdepth rfl rfl hreplication hcapacity
    result trace
  obtain ⟨limits, hlimits⟩ := exists_limits hreplication hcapacity
  obtain ⟨⟨⟨outcome, p⟩, d₁⟩, hinside⟩ :
      ∃ r, ({ limits } : Pool).loadAll w.environment patience request d = r := ⟨_, rfl⟩
  have hfollows : (trace = steps ∧ ending = none) ∨
      (outcome ≠ .returned () ∧ Follows request.replication steps ending trace outcome) :=
    load_trail hlimits hinside hanswers (hshallow.mono hdepth) href
  have hcases : trace = steps ∨ CutInJob request.replication trace steps := by
    rcases hfollows with ⟨hwhole, -⟩ | ⟨-, hfollows⟩
    · exact .inl hwhole
    · exact hfollows.whole_or_cut
  refine ⟨?_, hcases, ?_, ?_⟩
  · rcases hcases with hwhole | hcut
    · rw [hwhole]
    · exact hcut.isPrefix
  · intro completed abandoned hfinished
    obtain ⟨limits', _, _, hlimits', hinside', -⟩ := load_finished hfinished
    rw [hlimits] at hlimits'
    cases hlimits'
    rw [hinside] at hinside'
    cases hinside'
    rcases hfollows with hwhole | ⟨hearly, -⟩
    · exact hwhole
    · exact absurd rfl hearly
  · intro fault hwhole hending
    rcases hfollows with ⟨-, hnone⟩ | ⟨hearly, hfollows⟩
    · rw [hending] at hnone
      cases hnone
    · rw [hwhole] at hfollows
      cases hfollows with
      | whole => exact absurd rfl hearly
      | lost hending' =>
          -- The walk has ended with this fault, and so does the load.
          rw [hending] at hending'
          cases hending'
          obtain ⟨answer, _, _, _, hresult, -⟩ := load_of_raised hlimits hinside
          exact ⟨fault? answer, congrArg Prod.fst hresult⟩
      | cut _ hcut => exact absurd rfl hcut.ne

/-- The metadata of `lostFolder`. -/
def lostMetadata : Metadata where
  stat := lostFolder.files.stat
  list := lostFolder.files.list

/-- The world of scripted services with the metadata of `lostFolder` at all times. -/
def lostWorld : World Rehearsal.Services :=
  { Rehearsal.Services.world with
    stat := fun path s => (lostMetadata.stat path, s)
    list := fun path s => (lostMetadata.list path, s) }

/-- One folder is below the other, and that is all. -/
theorem lostMetadata_below {parent child : String} (h : lostMetadata.Below parent child) :
    parent = "/data" ∧ child = "/data/b" := by
  obtain ⟨_, children, entry, -, -, hlist, hmem, hfolder, rfl⟩ := h
  change (List.lookup parent lostFolder.files.listings).getD _ = _ at hlist
  by_cases hparent : parent = "/data"
  · subst hparent
    cases hlist
    refine ⟨rfl, ?_⟩
    rcases List.mem_cons.mp hmem with rfl | hmem
    · cases hfolder
    · rw [List.mem_singleton.mp hmem]
  · have hnone : List.lookup parent lostFolder.files.listings = none := by
      show List.lookup parent [_] = none
      rw [List.lookup_cons, beq_eq_false_iff_ne.mpr hparent]
      rfl
    rw [hnone] at hlist
    cases hlist

/-- The walk of `lostFolder` follows the reference, whatever its patience for the jobs. -/
theorem load_follows_reference_at_lost_folder :
    ∃ steps ending depth, Reference lostMetadata 1 0 [.path "/data"] steps ending ∧
      ∀ passes, walkSteps [] ((load lostWorld.environment ⟨passes, depth⟩ {} { path := "/data" }
        { world := lostFolder }).2.eventsSince 0) <+: steps := by
  have hreach : ∀ path, Relation.ReflTransGen lostMetadata.Below "/data" path →
      path ∈ ({"/data", "/data/b"} : Set String) := by
    intro path h
    cases h with
    | refl => exact .inl rfl
    | tail _ hlast => exact .inr (lostMetadata_below hlast).2
  have hfinite : {path | Relation.ReflTransGen lostMetadata.Below "/data" path}.Finite :=
    (Set.toFinite {"/data", "/data/b"}).subset hreach
  have hacyclic : ∀ path, Relation.ReflTransGen lostMetadata.Below "/data" path →
      ¬ Relation.TransGen lostMetadata.Below path path := by
    intro path _ hcycle
    obtain ⟨_, hfirst, -⟩ := Relation.TransGen.head'_iff.mp hcycle
    obtain ⟨_, -, hlast⟩ := Relation.TransGen.tail'_iff.mp hcycle
    have heq := (lostMetadata_below hfirst).1.symm.trans (lostMetadata_below hlast).2
    exact absurd heq (by decide)
  obtain ⟨steps, ending, depth, href, -, hload⟩ :=
    load_follows_reference lostMetadata "/data" 1 hfinite hacyclic 0
  refine ⟨steps, ending, depth, href, fun passes => ?_⟩
  exact (hload lostWorld { world := lostFolder } ⟨passes, depth⟩ {} { path := "/data" }
    ⟨fun _ _ => rfl, fun _ _ => rfl⟩ rfl (Nat.le_refl _) rfl rfl (by decide) (by decide)).1

end LoadDispatch
