import LoadDispatch.Proofs.Pool.Moves
import LoadDispatch.Load

/-!
# What a load does

A walk as a relation, and around it the load.  The functions of a walk call each other along the
tree; the relation follows a list of errands instead, of which the first is done next and may put
others in front of the rest.  Each errand that leads to a path carries the depth of folders that it
may still go down.  With this there is one induction for everything that is claimed of walks, and
what lies behind a path in the walk is simply the rest of the list.

`Walks` leaves the answers of the world open, and the waits inside it to the relations of the pool.
-/

namespace LoadDispatch

variable {ω : Type} {w : World ω}

/-- What is still to be done in a walk. -/
inductive Errand where
  /-- Look at a path, and go down this many folders at most. -/
  | path (depth : Nat) (path : String)
  /-- Deal with a file whose metadata are known. -/
  | file (status : FileStatus)

/-- The errand for what a folder lists, with a depth in case that it is a folder again. -/
def Errand.ofChild (depth : Nat) (child : FileStatus) : Errand :=
  if child.folder then .path depth child.path else .file child

namespace Pool

/-- What a walk does, errand after errand. -/
inductive Walks (passes : Nat) (replication : Int) :
    List Errand → Pool → List Event → Outcome Unit → Pool → Prop where
  /-- Nothing is left to be done. -/
  | done (p : Pool) : Walks passes replication [] p [] (.returned ()) p
  /-- The folders are too deep. -/
  | tired (path : String) (rest : List Errand) (p : Pool) :
    Walks passes replication (.path 0 path :: rest) p [] .unfinished p
  /-- A path has no metadata. -/
  | lost (depth : Nat) (path : String) (rest : List Errand) (fault : Fault) (p : Pool) :
    Walks passes replication (.path (depth + 1) path :: rest) p [.statted path (.error fault)]
      (.raised fault) p
  /-- A path is a file. -/
  | leaf {depth : Nat} {path : String} {status : FileStatus} {rest : List Errand} {p q : Pool}
      {events : List Event} {outcome : Outcome Unit} : status.folder = false →
    Walks passes replication (.file status :: rest) p events outcome q →
    Walks passes replication (.path (depth + 1) path :: rest) p
      (.statted path (.ok status) :: events) outcome q
  /-- A path is a folder that cannot be listed. -/
  | unlisted {depth : Nat} {path : String} {status : FileStatus} (rest : List Errand)
      (fault : Fault) (p : Pool) : status.folder = true →
    Walks passes replication (.path (depth + 1) path :: rest) p
      [.statted path (.ok status), .listed path (.error fault)] (.raised fault) p
  /-- A path is a folder. -/
  | folder {depth : Nat} {path : String} {status : FileStatus} {children : List FileStatus}
      {rest : List Errand} {p q : Pool} {events : List Event} {outcome : Outcome Unit} :
    status.folder = true →
    Walks passes replication (children.map (.ofChild depth) ++ rest) p events outcome q →
    Walks passes replication (.path (depth + 1) path :: rest) p
      (.statted path (.ok status) :: .listed path (.ok children) :: events) outcome q
  /-- A file needs no job. -/
  | resident {status : FileStatus} {rest : List Errand} {p q : Pool} {events : List Event}
      {outcome : Outcome Unit} : status.fullyResident = true →
    Walks passes replication rest p events outcome q →
    Walks passes replication (.file status :: rest) p
      (.told (.progress (.alreadyLoaded status.path)) :: events) outcome q
  /-- A job for a file is admitted. -/
  | loading {status : FileStatus} {rest : List Errand} {p q r : Pool} {xs ys : List Event}
      {a : Attempt} {outcome : Outcome Unit} : status.fullyResident = false →
    Admits passes { path := status.path, replication } p xs (.returned a) q →
    Walks passes replication rest q ys outcome r →
    Walks passes replication (.file status :: rest) p
      (xs ++ .told (.progress (.loading status.path)) :: ys) outcome r
  /-- Admitting a job for a file ends with a fault. -/
  | refused {status : FileStatus} (rest : List Errand) {p q : Pool} {xs : List Event}
      {fault : Fault} : status.fullyResident = false →
    Admits passes { path := status.path, replication } p xs (.raised fault) q →
    Walks passes replication (.file status :: rest) p xs (.raised fault) q
  /-- Admitting a job for a file does not end. -/
  | waiting {status : FileStatus} (rest : List Errand) {p q : Pool} {xs : List Event} :
    status.fullyResident = false →
    Admits passes { path := status.path, replication } p xs .unfinished q →
    Walks passes replication (.file status :: rest) p xs .unfinished q

section Walks

variable {passes : Nat} {replication : Int} {p q r : Pool} {es rest : List Errand}
  {xs ys : List Event} {outcome : Outcome Unit}

/-- A walk goes on with the rest of its errands. -/
theorem Walks.append (h : Walks passes replication es p xs (.returned ()) q)
    (h' : Walks passes replication rest q ys outcome r) :
    Walks passes replication (es ++ rest) p (xs ++ ys) outcome r := by
  generalize hreturned : Outcome.returned () = first at h
  induction h with
  | done => exact h'
  | tired | lost | unlisted | refused | waiting => cases hreturned
  | leaf hfile _ ih => exact .leaf hfile (ih h' hreturned)
  | folder hfolder _ ih =>
      have hothers := ih h' hreturned
      rw [List.append_assoc] at hothers
      exact .folder hfolder hothers
  | resident hres _ ih => exact .resident hres (ih h' hreturned)
  | loading hres hadmit _ ih =>
      rw [List.append_assoc]
      exact .loading hres hadmit (ih h' hreturned)

/-- A walk that ends early never gets to the rest of its errands. -/
theorem Walks.append_of_ne (h : Walks passes replication es p xs outcome q)
    (hearly : outcome ≠ .returned ()) (rest : List Errand) :
    Walks passes replication (es ++ rest) p xs outcome q := by
  induction h with
  | done => exact absurd rfl hearly
  | tired path _ p => exact .tired path _ p
  | lost depth path _ fault p => exact .lost depth path _ fault p
  | leaf hfile _ ih => exact .leaf hfile (ih hearly)
  | unlisted _ fault p hfolder => exact .unlisted _ fault p hfolder
  | folder hfolder _ ih =>
      have hothers := ih hearly
      rw [List.append_assoc] at hothers
      exact .folder hfolder hothers
  | resident hres _ ih => exact .resident hres (ih hearly)
  | loading hres hadmit _ ih => exact .loading hres hadmit (ih hearly)
  | refused _ hres hadmit => exact .refused _ hres hadmit
  | waiting _ hres hadmit => exact .waiting _ hres hadmit

/-- A walk is made of moves. -/
theorem Walks.moves (h : Walks passes replication es p xs outcome q) : Moves p xs q := by
  have idle : ∀ (p : Pool) {e : Event}, e.callOn? = none → e.opened? = none →
      Moves p [e] p := fun p _ hcall hopen => .single (.idle p hcall hopen)
  induction h with
  | done p => exact .refl p
  | tired _ _ p => exact .refl p
  | lost _ _ _ _ p => exact idle p rfl rfl
  | leaf _ _ ih => exact (idle _ rfl rfl).trans ih
  | unlisted _ _ p _ => exact (idle p rfl rfl).trans (idle p rfl rfl)
  | folder _ _ ih => exact (idle _ rfl rfl).trans ((idle _ rfl rfl).trans ih)
  | resident _ _ ih => exact (idle _ rfl rfl).trans ih
  | loading _ hadmit _ ih => exact hadmit.moves.trans ((idle _ rfl rfl).trans ih)
  | refused _ _ hadmit => exact hadmit.moves
  | waiting _ _ hadmit => exact hadmit.moves

end Walks

/-! ## The functions of a walk -/

section Functions

variable {passes : Nat} {replication : Int}

/-- In a world every step can be reported. -/
theorem reportStep_ensures (step : Progress) (p : Pool) :
    Ensures w (p.reportStep w.environment step) fun r events =>
      r = (.returned (), p) ∧ events = [.told (.progress step)] := by
  refine (Ensures.report step).bind ?_
  rintro _ _ ⟨rfl, rfl⟩
  exact .pure ⟨rfl, rfl⟩

theorem loadFile_ensures (status : FileStatus) (p : Pool) :
    Ensures w (p.loadFile w.environment passes replication status) fun r events =>
      Walks passes replication [.file status] p events r.1 r.2 := by
  unfold loadFile
  cases hres : status.fullyResident with
  | true =>
      refine (reportStep_ensures _ p).mono ?_
      rintro _ _ ⟨rfl, rfl⟩
      exact .resident hres (.done p)
  | false =>
      refine (admitJob_ensures passes _ p).bind ?_
      rintro ⟨a | fault | -, q⟩ xs h
      · refine (reportStep_ensures _ q).mono ?_
        rintro _ _ ⟨rfl, rfl⟩
        simpa using Walks.loading hres h (.done q)
      · exact .pure (by simpa using .refused [] hres h)
      · exact .pure (by simpa using .waiting [] hres h)

/-- The children of a folder are errands, if going down into one is. -/
theorem loadChildren_ensures {depth : Nat}
    {descend : String → Pool → Recorded ω (Outcome Unit × Pool)}
    (hdescend : ∀ path p, Ensures w (descend path p) fun r events =>
      Walks passes replication [.path depth path] p events r.1 r.2)
    (children : List FileStatus) (p : Pool) :
    Ensures w (loadChildren w.environment passes replication descend children p) fun r events =>
      Walks passes replication (children.map (.ofChild depth)) p events r.1 r.2 := by
  induction children generalizing p with
  | nil => exact .pure (.done p)
  | cons child others ih =>
      -- A folder is gone down into and a file is dealt with; each is one errand.
      have hstep : Ensures w (if child.folder then descend child.path p
          else p.loadFile w.environment passes replication child) fun r events =>
            Walks passes replication [.ofChild depth child] p events r.1 r.2 := by
        unfold Errand.ofChild
        cases child.folder with
        | true => exact hdescend child.path p
        | false => exact loadFile_ensures child p
      refine hstep.bind ?_
      rintro ⟨⟨⟩ | fault | -, q⟩ xs h
      · refine (ih q).mono ?_
        intro r ys h'
        exact h.append h'
      · exact .pure (by simpa using h.append_of_ne (by simp) (others.map (.ofChild depth)))
      · exact .pure (by simpa using h.append_of_ne (by simp) (others.map (.ofChild depth)))

/-- **Walking is a relation.** -/
theorem loadPath_ensures (depth : Nat) (path : String) (p : Pool) :
    Ensures w (loadPath w.environment passes replication depth path p) fun r events =>
      Walks passes replication [.path depth path] p events r.1 r.2 := by
  induction depth generalizing path p with
  | zero => exact .pure (.tired path [] p)
  | succ depth ih =>
      refine (Ensures.stat path).bind ?_
      rintro (fault | status) _ rfl
      · exact .pure (.lost depth path [] fault p)
      · cases hfolder : status.folder with
        | false =>
            simp only [hfolder, Bool.false_eq_true, if_false]
            refine (loadFile_ensures status p).mono ?_
            intro r events h
            exact .leaf hfolder h
        | true =>
            simp only [hfolder, if_true]
            refine (Ensures.list path).bind ?_
            rintro (fault | children) _ rfl
            · exact .pure (.unlisted [] fault p hfolder)
            · refine (loadChildren_ensures ih children p).mono ?_
              intro r events h
              refine .folder hfolder ?_
              rw [List.append_nil]
              exact h

end Functions

/-! ## The load -/

/-- What the inside of the scope of a load does: a walk, and then draining. -/
inductive LoadsAll (patience : Patience) (request : LoadRequest) (p : Pool) :
    List Event → Outcome Unit → Pool → Prop where
  /-- The walk returns, and the pool is drained. -/
  | walked {q r : Pool} {xs ys : List Event} {outcome : Outcome Unit} :
    Walks patience.passes request.replication [.path patience.depth request.path] p xs
      (.returned ()) q →
    Drains patience.passes q.inFlight.length q ys outcome r →
    LoadsAll patience request p (xs ++ ys) outcome r
  /-- The walk ends early. -/
  | aborted {q : Pool} {xs : List Event} {outcome : Outcome Unit} :
    Walks patience.passes request.replication [.path patience.depth request.path] p xs outcome q →
    outcome ≠ .returned () → LoadsAll patience request p xs outcome q

theorem loadAll_ensures (patience : Patience) (request : LoadRequest) (p : Pool) :
    Ensures w (p.loadAll w.environment patience request) fun r events =>
      LoadsAll patience request p events r.1 r.2 := by
  refine (loadPath_ensures patience.depth request.path p).bind ?_
  rintro ⟨⟨⟩ | fault | -, q⟩ xs h
  · refine (drain_ensures patience.passes q).mono ?_
    intro r ys h'
    exact .walked h h'
  · exact .pure (by simpa using LoadsAll.aborted h (by simp))
  · exact .pure (by simpa using LoadsAll.aborted h (by simp))

theorem LoadsAll.moves {patience : Patience} {request : LoadRequest} {p q : Pool}
    {events : List Event} {outcome : Outcome Unit}
    (h : LoadsAll patience request p events outcome q) : Moves p events q := by
  cases h with
  | walked hwalk hdrain => exact hwalk.moves.trans hdrain.moves
  | aborted hwalk => exact hwalk.moves

/-- If the inside of a load returns, nothing is in flight. -/
theorem LoadsAll.inFlight_eq {patience : Patience} {request : LoadRequest} {p q : Pool}
    {events : List Event} (h : LoadsAll patience request p events (.returned ()) q) :
    q.inFlight = [] := by
  cases h with
  | walked _ hdrain => exact hdrain.inFlight_eq
  | aborted _ hearly => exact absurd rfl hearly

end Pool

end LoadDispatch
