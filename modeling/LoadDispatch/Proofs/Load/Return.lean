import LoadDispatch.Proofs.Load.Order
import LoadDispatch.Proofs.Pool.Countdown

/-!
# Walks that return

A walk admits jobs, and each admission may wait.  If something counts the sweeps of these waits down
(`Pool.Countdown`), each of them returns, and so does the walk: it ends when its errands are done,
or at metadata that cannot be had.  Which job is admitted on which session is told by the reference,
so the jobs that have to be expected are those of its steps.
-/

namespace LoadDispatch

/-- The fault of an answer about metadata. -/
def Event.metadataFault? : Event → Option Fault
  | .statted _ answer => fault? answer
  | .listed _ answer => fault? answer
  | _ => none

/-- Some metadata cannot be had, and a walk that ends there ends with their fault. -/
def MetadataFails (events : List Event) (ending : Option Fault) : Prop :=
  ∃ e ∈ events, ∃ fault, e.metadataFault? = some fault ∧ ending = some fault

theorem MetadataFails.mono {xs ys : List Event} {ending : Option Fault}
    (h : MetadataFails xs ending) (hsub : xs ⊆ ys) : MetadataFails ys ending := by
  obtain ⟨e, he, hfault⟩ := h
  exact ⟨e, hsub he, hfault⟩

/-- The session that is asked for first has the next number. -/
theorem Numbered.eq_of_head? {n : Nat} {events : List Event} {session : Session}
    (h : Numbered n events) (hfirst : (askedIn events).head? = some session) :
    session = ⟨n + 1⟩ := by
  obtain ⟨more, heq⟩ := List.head?_eq_some_iff.mp hfirst
  rw [Numbered, heq] at h
  exact congrArg Session.mk (List.cons.inj h).1

namespace Pool

section Walks

variable {A : List Event → Prop} {J : Session → JobConfig → Prop} {bound passes : Nat}
  {I : Nat → List Event → Pool → Prop} {replication : Int} {es : List Errand} {p q : Pool}
  {xs ys : List Event} {outcome : Outcome Unit} {m : Metadata} {n : Nat} {steps : List WalkStep}
  {ending : Option Fault}

/-- The admission of the next job returns. -/
theorem Admits.returns_next (c : Countdown A J bound I) {status : FileStatus}
    {admission : Outcome Attempt} {rest : List Visit}
    (h : Admits passes { path := status.path, replication } p ys admission q)
    (hres : status.fullyResident = false) (hI : I bound xs p) (hA : A (xs ++ ys))
    (hbound : bound ≤ passes) (hn : Numbered n ys)
    (href : Reference m replication n (.file status :: rest) steps ending)
    (hJ : ∀ session config, .run session config ∈ steps → J session config) :
    (∃ a, admission = .returned a) ∧ I bound (xs ++ ys) q ∧ (askedIn ys).length = 1 ∧
      ∃ more, steps = jobSteps replication n status.path ++ more ∧
        Reference m replication (n + 1) rest more ending := by
  have hneeded : status.residency < 100 := by
    simpa [FileStatus.fullyResident] using hres
  obtain ⟨more, rfl, hrest⟩ := href.of_load hneeded
  obtain ⟨hreturned, hI', hasked⟩ := h.returns c hI hA hbound fun session hfirst => by
    rw [hn.eq_of_head? hfirst]
    exact hJ _ _ (by simp [jobSteps])
  exact ⟨hreturned, hI', hasked, more, rfl, hrest⟩

/-- **A walk returns, or it ends at metadata that cannot be had.** -/
theorem Walks.returns (c : Countdown A J bound I)
    (h : Walks passes replication es p ys outcome q) (hI : I bound xs p) (hA : A (xs ++ ys))
    (hbound : bound ≤ passes) (hn : Numbered n ys) (htells : ∀ e ∈ ys, m.Tells e)
    (hshallow : ∀ depth path, Errand.path depth path ∈ es → m.Shallow depth path)
    (href : Reference m replication n (es.map Errand.visit) steps ending)
    (hJ : ∀ session config, .run session config ∈ steps → J session config) :
    (outcome = .returned () ∧ I bound (xs ++ ys) q) ∨ MetadataFails ys ending := by
  induction h generalizing n xs steps with
  | done => exact .inl ⟨rfl, by simpa using hI⟩
  | tired path rest p => exact (hshallow 0 path List.mem_cons_self).elim
  | lost depth path rest fault p =>
      have hstat : .error fault = m.stat path := htells _ List.mem_cons_self
      obtain ⟨-, rfl⟩ := href.of_lost hstat.symm
      exact .inr ⟨_, List.mem_cons_self, fault, rfl, rfl⟩
  | @leaf depth path status rest _ _ _ _ hfile _ ih =>
      rw [List.forall_mem_cons] at htells
      have hstat : .ok status = m.stat path := htells.1
      obtain ⟨more, rfl, hrest⟩ := href.of_leaf hstat.symm hfile
      rw [List.append_cons] at hA ⊢
      refine (ih (c.idle hI rfl rfl) hA hn htells.2 ?_ hrest ?_).imp_right ?_
      · exact fun d p hmem => hshallow d p (List.mem_cons_of_mem _ (by simpa using hmem))
      · exact fun session config hrun => hJ session config (List.mem_cons_of_mem _ hrun)
      · exact fun hfails => hfails.mono (List.subset_cons_self _ _)
  | @unlisted depth path status rest fault p hfolder =>
      rw [List.forall_mem_cons, List.forall_mem_cons] at htells
      have hstat : .ok status = m.stat path := htells.1
      have hlist : .error fault = m.list path := htells.2.1
      obtain ⟨-, rfl⟩ := href.of_unlisted hstat.symm hfolder hlist.symm
      exact .inr ⟨_, List.mem_cons_of_mem _ List.mem_cons_self, fault, rfl, rfl⟩
  | @folder depth path status children rest _ _ _ _ hfolder _ ih =>
      rw [List.forall_mem_cons, List.forall_mem_cons] at htells
      have hstat : .ok status = m.stat path := htells.1
      have hlist : .ok children = m.list path := htells.2.1
      obtain ⟨more, rfl, hrest⟩ := href.of_folder hstat.symm hfolder hlist.symm
      rw [← map_visit_ofChild depth children, ← List.map_append] at hrest
      rw [List.append_cons, List.append_cons] at hA ⊢
      refine (ih (c.idle (c.idle hI rfl rfl) rfl rfl) hA hn htells.2.2 ?_ hrest ?_).imp_right ?_
      · intro d p hmem
        rcases List.mem_append.mp hmem with hmem | hmem
        · exact (hshallow _ path List.mem_cons_self).of_mem_children hstat.symm hfolder hlist.symm
            hmem
        · exact hshallow d p (List.mem_cons_of_mem _ hmem)
      · exact fun session config hrun =>
          hJ session config (List.mem_cons_of_mem _ (List.mem_cons_of_mem _ hrun))
      · exact fun hfails => hfails.mono (List.subset_append_right [_, _] _)
  | @resident status rest _ _ _ _ hres _ ih =>
      rw [List.forall_mem_cons] at htells
      obtain ⟨more, rfl, hrest⟩ := href.of_resident (by simpa [FileStatus.fullyResident] using hres)
      rw [List.append_cons] at hA ⊢
      refine (ih (c.idle hI rfl rfl) hA hn htells.2 ?_ hrest ?_).imp_right ?_
      · exact fun d p hmem => hshallow d p (List.mem_cons_of_mem _ hmem)
      · exact fun session config hrun => hJ session config (List.mem_cons_of_mem _ hrun)
      · exact fun hfails => hfails.mono (List.subset_cons_self _ _)
  | @loading status rest _ _ _ zs ys a _ hres hadmit _ ih =>
      rw [← List.append_assoc] at hA ⊢
      obtain ⟨-, hI', hasked, more, rfl, hrest⟩ :=
        hadmit.returns_next c hres hI (c.left hA) hbound hn.left href hJ
      have hn' := hn.right
      rw [hasked] at hn'
      rw [List.append_cons] at hA ⊢
      refine (ih (c.idle hI' rfl rfl) hA hn' ?_ ?_ hrest ?_).imp_right ?_
      · exact fun e he => htells e (List.mem_append_right _ (List.mem_cons_of_mem _ he))
      · exact fun d p hmem => hshallow d p (List.mem_cons_of_mem _ hmem)
      · exact fun session config hrun => hJ session config (List.mem_append_right _ hrun)
      · exact fun hfails => (hfails.mono (List.subset_cons_self _ _)).mono
          (List.subset_append_right _ _)
  | refused _ hres hadmit | waiting _ hres hadmit =>
      obtain ⟨⟨a, heq⟩, -⟩ := hadmit.returns_next c hres hI hA hbound hn href hJ
      cases heq

/-- The inside of a load returns, or its walk ends at metadata that cannot be had. -/
theorem LoadsAll.returns (c : Countdown A J bound I) {patience : Patience} {request : LoadRequest}
    (h : LoadsAll patience request p ys outcome q) (hI : I bound xs p) (hA : A (xs ++ ys))
    (hbound : bound ≤ patience.passes) (hn : Numbered n ys) (htells : ∀ e ∈ ys, m.Tells e)
    (hshallow : m.Shallow patience.depth request.path)
    (href : Reference m request.replication n [.path request.path] steps ending)
    (hJ : ∀ session config, .run session config ∈ steps → J session config) :
    (outcome = .returned () ∧ I bound (xs ++ ys) q) ∨ MetadataFails ys ending := by
  have hpaths : ∀ depth path, Errand.path depth path ∈ [Errand.path patience.depth request.path] →
      m.Shallow depth path := by
    intro depth path hmem
    cases List.mem_singleton.mp hmem
    exact hshallow
  cases h with
  | walked hwalk hdrain =>
      rw [← List.append_assoc] at hA ⊢
      rcases hwalk.returns c hI (c.left hA) hbound hn.left
          (fun e he => htells e (List.mem_append_left _ he)) hpaths href hJ with
        ⟨-, hI'⟩ | hfails
      · obtain ⟨houtcome, -, hI''⟩ := hdrain.returns c hI' hA (Nat.le_refl _) hbound
        exact .inl ⟨houtcome, hI''⟩
      · exact .inr (hfails.mono (List.subset_append_left _ _))
  | aborted hwalk hearly =>
      refine (hwalk.returns c hI hA hbound hn htells hpaths href hJ).imp_left ?_
      rintro ⟨houtcome, -⟩
      exact absurd houtcome hearly

end Walks

end Pool

end LoadDispatch
