import LoadDispatch.FileStatus
import LoadDispatch.Job
import LoadDispatch.Environment
import Mathlib.Data.Fintype.Card
import Mathlib.Data.Set.Finite.Basic
import Mathlib.Logic.Relation

/-!
# The walk that the metadata prescribe

What a load should do, told without its pool and its services: only the metadata of paths, which
are taken to be a fixed function here, and the replication.  `Reference` is the sequence of steps
that they prescribe, with the fault it ends with, if it meets one.  It goes depth first and in the
order of listing; a folder that stands in a listing is looked at again by its path.

Nothing bounds the depth of this sequence, so it is a relation and not a function.  It has at most
one outcome (`Reference.unique`), and it has one if the folders below the root are finitely many
and none of them is below itself (`exists_reference`).  Both of these come from one notion:
`Metadata.Shallow d path` says that no chain of folders from the path is longer than `d`.
-/

namespace LoadDispatch

/-- What a storage system says of paths, if it says the same at all times. -/
structure Metadata where
  /-- The metadata of a path. -/
  stat : String → Except Fault FileStatus
  /-- The listing of a folder. -/
  list : String → Except Fault (List FileStatus)

/-- A step of a walk. -/
inductive WalkStep where
  /-- The metadata of a path are asked for. -/
  | stat (path : String)
  /-- A folder is listed. -/
  | list (path : String)
  /-- A session is asked for. -/
  | connect (session : Session)
  /-- A job is submitted on a session for the first time. -/
  | run (session : Session) (config : JobConfig)
  /-- A person is told a line. -/
  | report (line : String)
deriving DecidableEq

/-- What is still to be visited. -/
inductive Visit where
  /-- A path that nothing is known of. -/
  | path (path : String)
  /-- A file whose metadata are known. -/
  | file (status : FileStatus)

/-- How an entry of a listing is visited: a folder by its path, a file as it is. -/
def Visit.ofChild (child : FileStatus) : Visit :=
  if child.folder then .path child.path else .file child

/-- The steps for a file that needs a job, behind `n` sessions. -/
def jobSteps (replication : Int) (n : Nat) (path : String) : List WalkStep :=
  [.connect ⟨n + 1⟩, .run ⟨n + 1⟩ { path, replication }, .report s!"{path} loading"]

/-- The steps that metadata prescribe for what is to be visited, behind `n` sessions, and the fault
they end with. -/
inductive Reference (m : Metadata) (replication : Int) :
    Nat → List Visit → List WalkStep → Option Fault → Prop where
  /-- Nothing is to be visited. -/
  | done (n : Nat) : Reference m replication n [] [] none
  /-- A path has no metadata, and the walk ends. -/
  | lost {path : String} {fault : Fault} (n : Nat) (rest : List Visit) :
    m.stat path = .error fault →
    Reference m replication n (.path path :: rest) [.stat path] (some fault)
  /-- A path is a file. -/
  | leaf {path : String} {status : FileStatus} {n : Nat} {rest : List Visit}
      {steps : List WalkStep} {ending : Option Fault} :
    m.stat path = .ok status → status.folder = false →
    Reference m replication n (.file status :: rest) steps ending →
    Reference m replication n (.path path :: rest) (.stat path :: steps) ending
  /-- A path is a folder that cannot be listed, and the walk ends. -/
  | unlisted {path : String} {status : FileStatus} {fault : Fault} (n : Nat) (rest : List Visit) :
    m.stat path = .ok status → status.folder = true → m.list path = .error fault →
    Reference m replication n (.path path :: rest) [.stat path, .list path] (some fault)
  /-- A path is a folder, and its children come next, in the order of listing. -/
  | folder {path : String} {status : FileStatus} {children : List FileStatus} {n : Nat}
      {rest : List Visit} {steps : List WalkStep} {ending : Option Fault} :
    m.stat path = .ok status → status.folder = true → m.list path = .ok children →
    Reference m replication n (children.map .ofChild ++ rest) steps ending →
    Reference m replication n (.path path :: rest) (.stat path :: .list path :: steps) ending
  /-- A file whose blocks are all in the cache is reported. -/
  | resident {status : FileStatus} {n : Nat} {rest : List Visit} {steps : List WalkStep}
      {ending : Option Fault} :
    100 ≤ status.residency → Reference m replication n rest steps ending →
    Reference m replication n (.file status :: rest)
      (.report s!"{status.path} is already fully loaded" :: steps) ending
  /-- Any other file gets a job. -/
  | load {status : FileStatus} {n : Nat} {rest : List Visit} {steps : List WalkStep}
      {ending : Option Fault} :
    status.residency < 100 → Reference m replication (n + 1) rest steps ending →
    Reference m replication n (.file status :: rest)
      (jobSteps replication n status.path ++ steps) ending

/-! ## What comes next is determined

The metadata of what is visited first say which of the cases above applies. -/

namespace Reference

variable {m : Metadata} {replication : Int} {n : Nat} {path : String} {status : FileStatus}
  {rest : List Visit} {steps : List WalkStep} {ending : Option Fault}

theorem of_lost {fault : Fault} (hstat : m.stat path = .error fault)
    (h : Reference m replication n (.path path :: rest) steps ending) :
    steps = [.stat path] ∧ ending = some fault := by
  cases h with
  | lost _ _ hstat' =>
      rw [hstat] at hstat'
      cases hstat'
      exact ⟨rfl, rfl⟩
  | leaf hstat' | unlisted _ _ hstat' | folder hstat' =>
      rw [hstat] at hstat'
      cases hstat'

theorem of_leaf (hstat : m.stat path = .ok status) (hfile : status.folder = false)
    (h : Reference m replication n (.path path :: rest) steps ending) :
    ∃ more, steps = .stat path :: more ∧
      Reference m replication n (.file status :: rest) more ending := by
  cases h with
  | lost _ _ hstat' =>
      rw [hstat] at hstat'
      cases hstat'
  | leaf hstat' _ hrest =>
      rw [hstat] at hstat'
      cases hstat'
      exact ⟨_, rfl, hrest⟩
  | unlisted _ _ hstat' hfolder | folder hstat' hfolder =>
      rw [hstat] at hstat'
      cases hstat'
      rw [hfile] at hfolder
      cases hfolder

theorem of_unlisted {fault : Fault} (hstat : m.stat path = .ok status)
    (hfolder : status.folder = true) (hlist : m.list path = .error fault)
    (h : Reference m replication n (.path path :: rest) steps ending) :
    steps = [.stat path, .list path] ∧ ending = some fault := by
  cases h with
  | lost _ _ hstat' =>
      rw [hstat] at hstat'
      cases hstat'
  | leaf hstat' hfile =>
      rw [hstat] at hstat'
      cases hstat'
      rw [hfolder] at hfile
      cases hfile
  | unlisted _ _ _ _ hlist' =>
      rw [hlist] at hlist'
      cases hlist'
      exact ⟨rfl, rfl⟩
  | folder _ _ hlist' =>
      rw [hlist] at hlist'
      cases hlist'

theorem of_folder {children : List FileStatus} (hstat : m.stat path = .ok status)
    (hfolder : status.folder = true) (hlist : m.list path = .ok children)
    (h : Reference m replication n (.path path :: rest) steps ending) :
    ∃ more, steps = .stat path :: .list path :: more ∧
      Reference m replication n (children.map .ofChild ++ rest) more ending := by
  cases h with
  | lost _ _ hstat' =>
      rw [hstat] at hstat'
      cases hstat'
  | leaf hstat' hfile =>
      rw [hstat] at hstat'
      cases hstat'
      rw [hfolder] at hfile
      cases hfile
  | unlisted _ _ _ _ hlist' =>
      rw [hlist] at hlist'
      cases hlist'
  | folder _ _ hlist' hrest =>
      rw [hlist] at hlist'
      cases hlist'
      exact ⟨_, rfl, hrest⟩

theorem of_resident (hres : 100 ≤ status.residency)
    (h : Reference m replication n (.file status :: rest) steps ending) :
    ∃ more, steps = .report s!"{status.path} is already fully loaded" :: more ∧
      Reference m replication n rest more ending := by
  cases h with
  | resident _ hrest => exact ⟨_, rfl, hrest⟩
  | load hneeded => omega

theorem of_load (hneeded : status.residency < 100)
    (h : Reference m replication n (.file status :: rest) steps ending) :
    ∃ more, steps = jobSteps replication n status.path ++ more ∧
      Reference m replication (n + 1) rest more ending := by
  cases h with
  | resident hres => omega
  | load _ hrest => exact ⟨_, rfl, hrest⟩

/-- **Metadata prescribe one sequence of steps at most.** -/
theorem unique {visits : List Visit} {steps' : List WalkStep} {ending' : Option Fault}
    (h : Reference m replication n visits steps ending)
    (h' : Reference m replication n visits steps' ending') :
    steps' = steps ∧ ending' = ending := by
  induction h generalizing steps' ending' with
  | done =>
      cases h'
      exact ⟨rfl, rfl⟩
  | lost _ _ hstat => exact h'.of_lost hstat
  | leaf hstat hfile _ ih =>
      obtain ⟨more, rfl, hrest⟩ := h'.of_leaf hstat hfile
      obtain ⟨rfl, rfl⟩ := ih hrest
      exact ⟨rfl, rfl⟩
  | unlisted _ _ hstat hfolder hlist => exact h'.of_unlisted hstat hfolder hlist
  | folder hstat hfolder hlist _ ih =>
      obtain ⟨more, rfl, hrest⟩ := h'.of_folder hstat hfolder hlist
      obtain ⟨rfl, rfl⟩ := ih hrest
      exact ⟨rfl, rfl⟩
  | resident hres _ ih =>
      obtain ⟨more, rfl, hrest⟩ := h'.of_resident hres
      obtain ⟨rfl, rfl⟩ := ih hrest
      exact ⟨rfl, rfl⟩
  | load hneeded _ ih =>
      obtain ⟨more, rfl, hrest⟩ := h'.of_load hneeded
      obtain ⟨rfl, rfl⟩ := ih hrest
      exact ⟨rfl, rfl⟩

end Reference

/-! ## Folders below folders -/

namespace Metadata

/-- A folder stands in the listing of another one. -/
def Below (m : Metadata) (parent child : String) : Prop :=
  ∃ status children entry, m.stat parent = .ok status ∧ status.folder = true ∧
    m.list parent = .ok children ∧ entry ∈ children ∧ entry.folder = true ∧ entry.path = child

/-- No chain of folders from a path is longer than a number. -/
def Shallow (m : Metadata) : Nat → String → Prop
  | 0, _ => False
  | depth + 1, path => ∀ child, m.Below path child → m.Shallow depth child

variable {m : Metadata}

theorem Shallow.succ {depth : Nat} {path : String} (h : m.Shallow depth path) :
    m.Shallow (depth + 1) path := by
  induction depth generalizing path with
  | zero => exact h.elim
  | succ depth ih =>
      intro child hchild
      exact ih (h child hchild)

theorem Shallow.mono {depth depth' : Nat} {path : String} (h : m.Shallow depth path)
    (hle : depth ≤ depth') : m.Shallow depth' path := by
  induction hle with
  | refl => exact h
  | step _ ih => exact ih.succ

/-- Only entries of one listing are below a path, so finitely many depths have to be told apart. -/
theorem exists_shallow_succ {path : String}
    (h : ∀ child, m.Below path child → ∃ depth, m.Shallow depth child) :
    ∃ depth, m.Shallow depth path := by
  have hlist : ∀ children : List FileStatus, ∃ depth, ∀ entry ∈ children,
      m.Below path entry.path → m.Shallow depth entry.path := by
    intro children
    induction children with
    | nil => exact ⟨0, by simp⟩
    | cons entry others ih =>
        obtain ⟨depth, hothers⟩ := ih
        by_cases hbelow : m.Below path entry.path
        · obtain ⟨depth', hentry⟩ := h _ hbelow
          refine ⟨max depth depth', ?_⟩
          intro e he hbelow'
          rcases List.mem_cons.mp he with rfl | he
          · exact hentry.mono (Nat.le_max_right _ _)
          · exact (hothers e he hbelow').mono (Nat.le_max_left _ _)
        · refine ⟨depth, ?_⟩
          intro e he hbelow'
          rcases List.mem_cons.mp he with rfl | he
          · exact absurd hbelow' hbelow
          · exact hothers e he hbelow'
  cases hchildren : m.list path with
  | error =>
      refine ⟨1, ?_⟩
      rintro child ⟨_, _, _, -, -, hlist', -⟩
      rw [hchildren] at hlist'
      cases hlist'
  | ok children =>
      obtain ⟨depth, hdepth⟩ := hlist children
      refine ⟨depth + 1, ?_⟩
      intro child hchild
      have hbelow := hchild
      obtain ⟨_, children', entry, -, -, hlist', hmem, -, rfl⟩ := hchild
      rw [hchildren] at hlist'
      cases hlist'
      exact hdepth entry hmem hbelow

/-- **Finitely many folders without a cycle are shallow.** -/
theorem exists_shallow {root : String}
    (hfinite : {path | Relation.ReflTransGen m.Below root path}.Finite)
    (hacyclic : ∀ path, Relation.ReflTransGen m.Below root path →
      ¬ Relation.TransGen m.Below path path) :
    ∃ depth, m.Shallow depth root := by
  -- On the folders that can be reached, being above is transitive, irreflexive and finite.
  let above (a b : {path | Relation.ReflTransGen m.Below root path}) : Prop :=
    Relation.TransGen m.Below b.1 a.1
  have htrans : IsTrans _ above := ⟨fun _ _ _ hab hbc => hbc.trans hab⟩
  have hirrefl : Std.Irrefl above := ⟨fun a => hacyclic a.1 a.2⟩
  have : Finite {path | Relation.ReflTransGen m.Below root path} := hfinite
  have hwf : WellFounded above := Finite.wellFounded_of_trans_of_irrefl above
  have hall : ∀ a : {path | Relation.ReflTransGen m.Below root path},
      ∃ depth, m.Shallow depth a.1 := by
    intro a
    induction a using hwf.induction with
    | _ a ih =>
        refine exists_shallow_succ fun child hchild => ?_
        exact ih ⟨child, Relation.ReflTransGen.tail a.2 hchild⟩ (.single hchild)
  exact hall ⟨root, .refl⟩

end Metadata

/-! ## The sequence exists -/

section Exists

variable {m : Metadata} {replication : Int}

/-- The steps for a file are followed by those for the rest. -/
theorem exists_reference_file {rest : List Visit}
    (hrest : ∀ n, ∃ steps ending, Reference m replication n rest steps ending)
    (status : FileStatus) (n : Nat) :
    ∃ steps ending, Reference m replication n (.file status :: rest) steps ending := by
  by_cases hres : 100 ≤ status.residency
  · obtain ⟨steps, ending, h⟩ := hrest n
    exact ⟨_, _, .resident hres h⟩
  · obtain ⟨steps, ending, h⟩ := hrest (n + 1)
    exact ⟨_, _, .load (by omega) h⟩

/-- The steps for a path are followed by those for the rest. -/
theorem exists_reference_path {depth : Nat} {path : String} (hshallow : m.Shallow depth path)
    {rest : List Visit}
    (hrest : ∀ n, ∃ steps ending, Reference m replication n rest steps ending) (n : Nat) :
    ∃ steps ending, Reference m replication n (.path path :: rest) steps ending := by
  induction depth generalizing path rest n with
  | zero => exact hshallow.elim
  | succ depth ih =>
      match hstat : m.stat path with
      | .error fault => exact ⟨_, _, .lost n rest hstat⟩
      | .ok status =>
          cases hfolder : status.folder with
          | false =>
              obtain ⟨steps, ending, h⟩ := exists_reference_file hrest status n
              exact ⟨_, _, .leaf hstat hfolder h⟩
          | true =>
              match hlist : m.list path with
              | .error fault => exact ⟨_, _, .unlisted n rest hstat hfolder hlist⟩
              | .ok children =>
                  -- The children in front of the rest, one after the other from the last.
                  have hall : ∀ part : List FileStatus, part ⊆ children → ∀ n, ∃ steps ending,
                      Reference m replication n (part.map .ofChild ++ rest) steps ending := by
                    intro part
                    induction part with
                    | nil => exact fun _ => hrest
                    | cons child others ih' =>
                        intro hsub
                        rw [List.cons_subset] at hsub
                        rw [List.map_cons, List.cons_append, Visit.ofChild]
                        cases hchild : child.folder with
                        | false => exact exists_reference_file (ih' hsub.2) child
                        | true =>
                            refine ih (hshallow child.path ?_) (ih' hsub.2)
                            exact ⟨status, children, child, hstat, hfolder, hlist, hsub.1,
                              hchild, rfl⟩
                  obtain ⟨steps, ending, h⟩ := hall children (List.Subset.refl _) n
                  exact ⟨_, _, .folder hstat hfolder hlist h⟩

end Exists

end LoadDispatch
