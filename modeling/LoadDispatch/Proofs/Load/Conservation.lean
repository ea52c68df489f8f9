import LoadDispatch.Proofs.Load.Cleanup
import LoadDispatch.Proofs.Pool.Conservation

/-!
# The jobs of a load

A load that is finished has an account: so many jobs were seen finished, so many were given up.
Together they are as many as the files that the walk met and that needed a job.  What the walk met
is read off the answers of the storage system: a path that turns out to be a file, and the files in
a listing.  A folder in a listing is not a file, whatever it turns out to be later.

One session is opened for each such file, which is an induction over the walk.  That each of them
ends up in one of the two counts is what conservation says of a pool with nothing in flight, if
nobody was taken out of it by closing.
-/

namespace LoadDispatch

/-- The files that an answer of the storage system shows to a walk. -/
def Event.filesMet : Event → List FileStatus
  | .statted _ (.ok status) => if status.folder then [] else [status]
  | .listed _ (.ok children) => children.filter fun child => !child.folder
  | _ => []

/-- The files that a walk has met and that need a job. -/
def jobsNeeded (events : List Event) : Nat :=
  (events.flatMap Event.filesMet).countP fun status => !status.fullyResident

section JobsNeeded

variable {xs ys : List Event} {ss : List Session}

@[simp] theorem jobsNeeded_append : jobsNeeded (xs ++ ys) = jobsNeeded xs + jobsNeeded ys := by
  rw [jobsNeeded, List.flatMap_append, List.countP_append]
  rfl

@[simp] theorem jobsNeeded_cons (e : Event) :
    jobsNeeded (e :: xs) = (e.filesMet.countP fun status => !status.fullyResident) +
      jobsNeeded xs := by
  rw [jobsNeeded, List.flatMap_cons, List.countP_append]
  rfl

theorem Event.Among.filesMet_eq_nil {e : Event} (he : e.Among ss) : e.filesMet = [] := by
  cases e with
  | statted | listed => exact he.elim
  | _ => rfl

/-- What a pool does between two openings shows no files. -/
theorem jobsNeeded_eq_zero (h : ∀ e ∈ xs, e.Among ss) : jobsNeeded xs = 0 := by
  have hnil : xs.flatMap Event.filesMet = [] :=
    List.flatMap_eq_nil_iff.mpr fun e he => (h e he).filesMet_eq_nil
  rw [jobsNeeded, hnil]
  rfl

end JobsNeeded

/-- The file that an errand is about, if it is known already. -/
def Errand.file? : Errand → Option FileStatus
  | .path _ _ => none
  | .file status => some status

/-- The errands to files that need a job. -/
def errandsToLoad (es : List Errand) : Nat :=
  (es.filterMap Errand.file?).countP fun status => !status.fullyResident

section ErrandsToLoad

variable {es rest : List Errand}

@[simp] theorem errandsToLoad_path (depth : Nat) (path : String) :
    errandsToLoad (.path depth path :: rest) = errandsToLoad rest := rfl

@[simp] theorem errandsToLoad_file (status : FileStatus) :
    errandsToLoad (.file status :: rest) =
      errandsToLoad rest + if status.fullyResident then 0 else 1 := by
  show List.countP _ (status :: _) = _
  rw [List.countP_cons]
  cases status.fullyResident <;> rfl

theorem errandsToLoad_append :
    errandsToLoad (es ++ rest) = errandsToLoad es + errandsToLoad rest := by
  rw [errandsToLoad, List.filterMap_append, List.countP_append]
  rfl

/-- The files among what a folder lists are those of the errands that it leads to. -/
theorem filterMap_file?_ofChild (depth : Nat) (children : List FileStatus) :
    (children.map (.ofChild depth)).filterMap Errand.file? =
      children.filter fun child => !child.folder := by
  induction children with
  | nil => rfl
  | cons child others ih =>
      rw [List.map_cons, List.filterMap_cons, List.filter_cons, ih, Errand.ofChild]
      cases child.folder <;> rfl

end ErrandsToLoad

namespace Pool

section Walks

variable {passes : Nat} {replication : Int} {p q : Pool} {events : List Event}

/-- A job that is placed takes one session. -/
theorem Places.count {config : JobConfig} {a : Attempt}
    (h : Places config p events (.ok a) q) :
    (openedIn events).length = 1 ∧ jobsNeeded events = 0 := by
  rcases h.opens with ⟨_, _, -, hanswer, -⟩ | ⟨_, _, _, _, _, rfl, -, hlives, -⟩
  · cases hanswer
  · refine ⟨?_, ?_⟩
    · rw [openedIn_cons, openedIn_eq_nil hlives.own]
      rfl
    · rw [jobsNeeded_cons, jobsNeeded_eq_zero hlives.own]
      rfl

/-- A job that is admitted takes one session. -/
theorem Admits.count {config : JobConfig} {a : Attempt}
    (h : Admits passes config p events (.returned a) q) :
    (openedIn events).length = 1 ∧ jobsNeeded events = 0 := by
  generalize houtcome : Outcome.returned a = outcome at h
  cases h with
  | @atOnce _ answer _ _ hplace =>
      cases answer with
      | error => cases houtcome
      | ok => exact hplace.count
  | @waited _ _ _ answer _ _ _ hwait hplace =>
      cases answer with
      | error => cases houtcome
      | ok =>
          have hamong := hwait.among.1
          rw [openedIn_append, jobsNeeded_append, openedIn_eq_nil hamong, jobsNeeded_eq_zero hamong,
            List.nil_append, Nat.zero_add]
          exact hplace.count
  | broken => cases houtcome
  | unfinished => cases houtcome

/-- **A walk that returns has opened one session for each file that needs a job.**  The files are
those that it has met, and those that it had errands to from the beginning. -/
theorem Walks.count {es : List Errand}
    (h : Walks passes replication es p events (.returned ()) q) :
    (openedIn events).length = jobsNeeded events + errandsToLoad es := by
  generalize houtcome : Outcome.returned () = outcome at h
  induction h with
  | done => rfl
  | tired | lost | unlisted | refused | waiting => cases houtcome
  | @leaf _ _ status _ _ _ _ _ hfile _ ih =>
      have hmet : ∀ path, (Event.statted path (.ok status)).filesMet = [status] := by
        simp [Event.filesMet, hfile]
      -- The file that is met is the next errand, so it is counted once on either side.
      have hrest := ih houtcome
      rw [errandsToLoad_file] at hrest
      rw [openedIn_cons, jobsNeeded_cons, hmet, List.countP_singleton, errandsToLoad_path]
      show (openedIn _).length = _
      rw [hrest]
      cases status.fullyResident with
      | true => simp only [Bool.not_true, Bool.false_eq_true, if_true, if_false]; omega
      | false => simp only [Bool.not_false, Bool.false_eq_true, if_true, if_false]; omega
  | @folder _ _ status children _ _ _ _ _ hfolder _ ih =>
      have hmet : ∀ path, (Event.statted path (.ok status)).filesMet = [] := by
        simp [Event.filesMet, hfolder]
      -- So are the files in the listing, all at once.
      have hrest := ih houtcome
      rw [errandsToLoad_append, errandsToLoad, filterMap_file?_ofChild] at hrest
      rw [openedIn_cons, openedIn_cons, jobsNeeded_cons, jobsNeeded_cons, hmet, errandsToLoad_path]
      show (openedIn _).length = 0 + (List.countP _ (children.filter _) + _) + _
      rw [hrest]
      omega
  | resident hres _ ih =>
      rw [openedIn_cons, jobsNeeded_cons, errandsToLoad_file, if_pos hres]
      show (openedIn _).length = 0 + _ + _
      rw [ih houtcome]
      omega
  | loading hres hadmit _ ih =>
      obtain ⟨hopened, hneeded⟩ := hadmit.count
      rw [openedIn_append, openedIn_cons, jobsNeeded_append, jobsNeeded_cons, errandsToLoad_file,
        hres, hneeded, List.length_append, hopened]
      show 1 + (openedIn _).length = 0 + (0 + _) + (_ + 1)
      rw [ih houtcome]
      omega

/-- The inside of a load that returns has opened one session for each file that needs a job. -/
theorem LoadsAll.count {patience : Patience} {request : LoadRequest}
    (h : LoadsAll patience request p events (.returned ()) q) :
    (openedIn events).length = jobsNeeded events := by
  cases h with
  | walked hwalk hdrain =>
      have hamong := hdrain.among.1
      rw [openedIn_append, jobsNeeded_append, openedIn_eq_nil hamong, jobsNeeded_eq_zero hamong,
        List.append_nil, Nat.add_zero, hwalk.count]
      rfl
  | aborted _ hearly => exact absurd rfl hearly

/-- With nothing in flight and nobody taken out by closing, all attempts are in the two counts. -/
theorem Ledger.completed_add_abandoned (l : Ledger events p) (hnil : p.inFlight = [])
    (hwhy : ∀ x ∈ p.departed, x.why ≠ .closed) :
    p.completed + p.abandoned = (openedIn events).length := by
  have hclosed : p.departed.filter (·.why == .closed) = [] := by
    refine List.filter_eq_nil_iff.mpr fun x hx => ?_
    simpa using hwhy x hx
  have hreasons := (perm_reasons p.departed).length_eq
  have hroster := l.roster.length_eq
  rw [hclosed, List.append_nil, List.length_append] at hreasons
  rw [Pool.roster, hnil, List.nil_append, sessionsOf, List.length_map, List.length_map] at hroster
  rw [l.completed, l.abandoned, List.countP_eq_length_filter, List.countP_eq_length_filter,
    hreasons, hroster]

end Walks

end Pool

section Jobs

variable {ω : Type} (w : World ω)

/-- **No job is lost or counted twice.**  In any world:

* after any operations on a new pool, the attempts are in four classes, and the counters are the
  sizes of two of them (`Pool.Conserved`);
* one operation more moves attempts between the classes as it should (`Pool.Shifts`);
* when a load is finished, nothing is in flight, its two counts are the counters of the pool, and
  together they are the number of files that the walk met and that needed a job. -/
theorem jobs_are_conserved :
    (∀ passes limits ops d,
      Pool.Conserved (Pool.run w passes limits ops d).2 (Pool.run w passes limits ops d).1 ∧
        (Pool.run w passes limits ops d).1.limits = limits) ∧
    (∀ passes limits ops o d,
      Pool.Shifts o (Pool.run w passes limits ops d).1
        (Pool.run w passes limits (ops ++ [o]) d).1) ∧
    (∀ patience policy request d completed abandoned,
      (load w.environment patience policy request d).1 = .finished completed abandoned →
        ∃ limits p d₁, policy.limits? request = .ok limits ∧
          ({ limits } : Pool).loadAll w.environment patience request d =
            ((.returned (), p), d₁) ∧
          p.inFlight = [] ∧ p.completed = completed ∧ p.abandoned = abandoned ∧
          completed + abandoned = jobsNeeded
            ((load w.environment patience policy request d).2.eventsSince d.journal.length)) := by
  refine ⟨?_, ?_, ?_⟩
  · intro passes limits ops d
    obtain ⟨hops, hn⟩ := Pool.run_performs w passes limits ops d
    exact ⟨(Pool.run_ledger w passes limits ops d).conserved hn, hops.limits_eq⟩
  · intro passes limits ops o d
    obtain ⟨more, hevents, h⟩ := Pool.run_concat w passes limits ops o d
    obtain ⟨-, hn⟩ := Pool.run_performs w passes limits (ops ++ [o]) d
    rw [hevents] at hn
    exact h.shifts (Pool.run_ledger w passes limits ops d) hn
  · intro patience policy request d completed abandoned h
    obtain ⟨limits, p, d₁, hlimits, hinside, hnil, rfl, rfl⟩ := load_finished h
    obtain ⟨hrecords, hloads, l, -⟩ := Pool.loadAll_run hinside
    obtain ⟨d₂, hwhole, hrecords'⟩ := load_of_returned hlimits hinside hnil
    have hwhy : ∀ x ∈ p.departed, x.why ≠ .closed := by
      obtain ⟨gone, hgone, hwhy⟩ :=
        hloads.moves.departed (.initial limits) hrecords.nodup_openedIn
      rw [hgone]
      exact hwhy
    refine ⟨limits, p, d₁, hlimits, hinside, hnil, rfl, rfl, ?_⟩
    rw [hwhole, (hrecords.append hrecords').eventsSince, jobsNeeded_append, ← hloads.count]
    exact l.completed_add_abandoned hnil hwhy

end Jobs

end LoadDispatch
