import LoadDispatch.Load

/-!
# One load in two environments

A load uses the world through its environment only, so two environments that answer alike lead it
along the same way.  Here they need not be alike in anything else: they may keep states of different
types, and write different things into them.

`Agree R Good x y` says this of two computations.  Begun in states that `R` relates, they give the
same value and end in such states.  The promise is for runs of `y` that end in a `Good` state; since
a run that ends well was well all the time (`Agree.back`), this is the promise until the first thing
happens that is not good, which is all that can be had if the two differ behind such a thing.

The relation is carried through every function of a load, up to `load_agree`.
-/

namespace LoadDispatch

variable {σ τ α β : Type}

/-- From states related by `R`, the computations lead to the same value and to related states, if
`y` ends in a good state. -/
structure Agree (R : σ → τ → Prop) (Good : τ → Prop) (x : StateM σ α) (y : StateM τ α) : Prop where
  /-- What is good after `y` was good before. -/
  back : ∀ t, Good (y t).2 → Good t
  /-- The computations agree. -/
  forth : ∀ s t, R s t → Good (y t).2 → (x s).1 = (y t).1 ∧ R (x s).2 (y t).2

namespace Agree

variable {R : σ → τ → Prop} {Good : τ → Prop} {x : StateM σ α} {y : StateM τ α}

theorem pure (a : α) : Agree R Good (Pure.pure a) (Pure.pure a) :=
  ⟨fun _ h => h, fun _ _ hR _ => ⟨rfl, hR⟩⟩

theorem bind {f : α → StateM σ β} {g : α → StateM τ β} (hx : Agree R Good x y)
    (hf : ∀ a, Agree R Good (f a) (g a)) : Agree R Good (x >>= f) (y >>= g) := by
  refine ⟨fun t h => hx.back t ((hf _).back _ h), fun s t hR h => ?_⟩
  obtain ⟨hvalue, hR'⟩ := hx.forth s t hR ((hf _).back _ h)
  show (f (x s).1 (x s).2).1 = _ ∧ R (f (x s).1 (x s).2).2 _
  rw [hvalue]
  exact (hf _).forth _ _ hR' h

theorem ite {c : Prop} [Decidable c] {x' : StateM σ α} {y' : StateM τ α}
    (hx : Agree R Good x y) (hx' : Agree R Good x' y') :
    Agree R Good (if c then x else x') (if c then y else y') := by
  by_cases hc : c
  · rwa [if_pos hc, if_pos hc]
  · rwa [if_neg hc, if_neg hc]

end Agree

/-- The operations of two environments agree. -/
structure Environment.AgreesWith (E : Environment (StateM σ)) (R : σ → τ → Prop)
    (Good : τ → Prop) (F : Environment (StateM τ)) : Prop where
  /-- Opening a session. -/
  connect : Agree R Good E.jobs.connect F.jobs.connect
  /-- Submitting a job. -/
  submit : ∀ session config,
    Agree R Good (E.jobs.submit session config) (F.jobs.submit session config)
  /-- Asking for the status of a job. -/
  poll : ∀ session job, Agree R Good (E.jobs.poll session job) (F.jobs.poll session job)
  /-- Closing a session. -/
  close : ∀ session, Agree R Good (E.jobs.close session) (F.jobs.close session)
  /-- Asking for the metadata of a path. -/
  stat : ∀ path, Agree R Good (E.files.stat path) (F.files.stat path)
  /-- Listing a folder. -/
  list : ∀ path, Agree R Good (E.files.list path) (F.files.list path)
  /-- Reporting a step. -/
  report : ∀ step, Agree R Good (E.report step) (F.report step)
  /-- Telling an entry of the log. -/
  log : ∀ entry, Agree R Good (E.tell (.log entry)) (F.tell (.log entry))
  /-- Telling that a pass begins. -/
  pass : ∀ atOnce, Agree R Good (E.tell (.pass atOnce)) (F.tell (.pass atOnce))
  /-- Telling the number of attempts in flight. -/
  inFlight : ∀ count, Agree R Good (E.tell (.inFlight count)) (F.tell (.inFlight count))
  /-- Waiting. -/
  pause : ∀ seconds, Agree R Good (E.pause seconds) (F.pause seconds)

variable {R : σ → τ → Prop} {Good : τ → Prop} {E : Environment (StateM σ)}
  {F : Environment (StateM τ)}

/-! ## Attempts -/

namespace Attempt

theorem submit_agree (h : E.AgreesWith R Good F) (a : Attempt) :
    Agree R Good (a.submit E) (a.submit F) := by
  refine .ite (.pure _) ?_
  cases a.budget.spend? with
  | none => exact (h.log _).bind fun _ => .pure _
  | some budget =>
      refine (h.submit _ _).bind ?_
      rintro (fault | job)
      · exact .ite ((h.log _).bind fun _ => .pure _) (.pure _)
      · exact .pure _

theorem status_agree (h : E.AgreesWith R Good F) (a : Attempt) :
    Agree R Good (a.status E) (a.status F) := by
  unfold status
  cases a.asksFor with
  | none => exact .pure _
  | some job =>
      refine (h.poll _ _).bind ?_
      rintro (fault | status)
      · exact .ite ((h.log _).bind fun _ => .pure _) (.pure _)
      · exact .pure _

theorem release_agree (h : E.AgreesWith R Good F) (a : Attempt) :
    Agree R Good (a.release E) (a.release F) :=
  .ite (.pure _) ((h.close _).bind fun _ => .pure _)

theorem depart_agree (h : E.AgreesWith R Good F) (a : Attempt) (why : Departure) :
    Agree R Good (a.depart E why) (a.depart F why) := by
  refine (a.release_agree h).bind ?_
  rintro ⟨fault | ⟨⟩, b⟩
  · exact .pure _
  · exact .pure _

theorem settle_agree (h : E.AgreesWith R Good F) (a : Attempt) (status : PolledStatus) :
    Agree R Good (a.settle E status) (a.settle F status) := by
  match status with
  | .known .created | .known .running | .unknown text => exact .pure _
  | .known .completed | .known .canceled => exact (h.log _).bind fun _ => a.depart_agree h _
  | .known .failed =>
      refine (a.submit_agree h).bind ?_
      rintro ⟨fault | granted, b⟩
      · exact .pure _
      · cases granted with
        | true => exact .pure _
        | false => exact b.depart_agree h _

end Attempt

/-! ## Pools -/

theorem settleAll_agree (h : E.AgreesWith R Good F) (pairs : List (Attempt × PolledStatus)) :
    Agree R Good (settleAll E pairs) (settleAll F pairs) := by
  induction pairs with
  | nil => exact .pure _
  | cons pair rest ih =>
      refine (pair.1.settle_agree h pair.2).bind fun first => ?_
      cases first.fault with
      | some fault => exact .pure _
      | none => exact ih.bind fun _ => .pure _

theorem askAll_agree (h : E.AgreesWith R Good F) (as : List Attempt) :
    Agree R Good (askAll E as) (askAll F as) := by
  induction as with
  | nil => exact .pure _
  | cons a rest ih => exact (a.status_agree h).bind fun _ => ih.bind fun _ => .pure _

namespace Pool

variable (p : Pool)

theorem finishSweep_agree (h : E.AgreesWith R Good F) (answers : List (Except Fault PolledStatus)) :
    Agree R Good (p.finishSweep E answers) (p.finishSweep F answers) := by
  unfold finishSweep
  cases collect answers with
  | error fault => exact .pure _
  | ok statuses =>
      refine (settleAll_agree h _).bind fun s => (h.inFlight _).bind fun _ => ?_
      cases s.fault with
      | some fault => exact .pure _
      | none => exact .pure _

theorem sweep_agree (h : E.AgreesWith R Good F) : Agree R Good (p.sweep E) (p.sweep F) :=
  (h.pass _).bind fun _ => (askAll_agree h _).bind fun _ => p.finishSweep_agree h _

theorem sweepUntilFreed_agree (h : E.AgreesWith R Good F) (passes : Nat) :
    Agree R Good (p.sweepUntilFreed E passes) (p.sweepUntilFreed F passes) := by
  induction passes generalizing p with
  | zero => exact .pure _
  | succ passes ih =>
      refine (p.sweep_agree h).bind ?_
      rintro ⟨fault | removed, q⟩
      · exact .pure _
      · cases removed with
        | zero => exact (h.pause _).bind fun _ => ih q
        | succ removed => exact .pure _

theorem waitForSlot_agree (h : E.AgreesWith R Good F) (passes : Nat) :
    Agree R Good (p.waitForSlot E passes) (p.waitForSlot F passes) :=
  .ite (.pure _) (p.sweepUntilFreed_agree h passes)

theorem drainWithin_agree (h : E.AgreesWith R Good F) (passes waits : Nat) :
    Agree R Good (p.drainWithin E passes waits) (p.drainWithin F passes waits) := by
  induction waits generalizing p with
  | zero => exact .pure _
  | succ waits ih =>
      refine .ite (.pure _) ((p.waitForSlot_agree h passes).bind ?_)
      rintro ⟨removed | fault | -, q⟩
      · exact ih q
      · exact .pure _
      · exact .pure _

theorem place_agree (h : E.AgreesWith R Good F) (config : JobConfig) :
    Agree R Good (p.place E config) (p.place F config) := by
  refine h.connect.bind ?_
  rintro (fault | session)
  · exact .pure _
  · refine (h.inFlight _).bind fun _ => (Attempt.submit_agree h _).bind ?_
    rintro ⟨fault | granted, a⟩
    · exact .pure _
    · exact (h.log _).bind fun _ => .pure _

theorem admitJob_agree (h : E.AgreesWith R Good F) (passes : Nat) (config : JobConfig) :
    Agree R Good (p.admitJob E passes config) (p.admitJob F passes config) := by
  have hplace : ∀ q : Pool, Agree R Good
      (q.place E config >>= fun r => pure (Outcome.ofExcept r.1, r.2))
      (q.place F config >>= fun r => pure (Outcome.ofExcept r.1, r.2)) :=
    fun q => (q.place_agree h config).bind fun _ => .pure _
  refine .ite ((p.waitForSlot_agree h passes).bind ?_) (hplace p)
  rintro ⟨removed | fault | -, q⟩
  · exact hplace q
  · exact .pure _
  · exact .pure _

theorem releaseAll_agree (h : E.AgreesWith R Good F) (as : List Attempt) :
    Agree R Good (releaseAll E as) (releaseAll F as) := by
  induction as with
  | nil => exact .pure _
  | cons a rest ih =>
      refine (a.release_agree h).bind ?_
      rintro ⟨fault | ⟨⟩, b⟩
      · exact (h.log _).bind fun _ => ih.bind fun _ => .pure _
      · exact ih.bind fun _ => .pure _

theorem close_agree (h : E.AgreesWith R Good F) : Agree R Good (p.close E) (p.close F) := by
  refine (h.inFlight _).bind fun _ => (releaseAll_agree h _).bind ?_
  rintro ⟨_ | fault, released⟩
  · exact .pure _
  · exact .pure _

theorem abort_agree (h : E.AgreesWith R Good F) : Agree R Good (p.abort E) (p.abort F) := by
  refine (p.close_agree h).bind ?_
  rintro ⟨fault | ⟨⟩, q⟩
  · exact .pure _
  · exact .pure _

/-! ## Loads -/

theorem reportStep_agree (h : E.AgreesWith R Good F) (step : Progress) :
    Agree R Good (p.reportStep E step) (p.reportStep F step) := by
  refine (h.report step).bind ?_
  rintro (fault | ⟨⟩)
  · exact .pure _
  · exact .pure _

theorem loadFile_agree (h : E.AgreesWith R Good F) (passes : Nat) (replication : Int)
    (file : FileStatus) :
    Agree R Good (p.loadFile E passes replication file) (p.loadFile F passes replication file) := by
  refine .ite (p.reportStep_agree h _) ((p.admitJob_agree h passes _).bind ?_)
  rintro ⟨a | fault | -, q⟩
  · exact q.reportStep_agree h _
  · exact .pure _
  · exact .pure _

theorem loadChildren_agree (h : E.AgreesWith R Good F) (passes : Nat) (replication : Int)
    {f : String → Pool → StateM σ (Outcome Unit × Pool)}
    {g : String → Pool → StateM τ (Outcome Unit × Pool)}
    (hfg : ∀ path p, Agree R Good (f path p) (g path p)) (children : List FileStatus) :
    Agree R Good (loadChildren E passes replication f children p)
      (loadChildren F passes replication g children p) := by
  induction children generalizing p with
  | nil => exact .pure _
  | cons child rest ih =>
      refine Agree.bind (.ite (hfg _ p) (p.loadFile_agree h passes replication child)) ?_
      rintro ⟨⟨⟩ | fault | -, q⟩
      · exact ih q
      · exact .pure _
      · exact .pure _

theorem loadPath_agree (h : E.AgreesWith R Good F) (passes : Nat) (replication : Int) (depth : Nat)
    (path : String) :
    Agree R Good (loadPath E passes replication depth path p)
      (loadPath F passes replication depth path p) := by
  induction depth generalizing path p with
  | zero => exact .pure _
  | succ depth ih =>
      refine (h.stat path).bind ?_
      rintro (fault | status)
      · exact .pure _
      · refine .ite ((h.list path).bind ?_) (p.loadFile_agree h passes replication status)
        rintro (fault | children)
        · exact .pure _
        · exact p.loadChildren_agree h passes replication (fun path p => ih p path) children

theorem loadAll_agree (h : E.AgreesWith R Good F) (patience : Patience) (request : LoadRequest) :
    Agree R Good (p.loadAll E patience request) (p.loadAll F patience request) := by
  refine (p.loadPath_agree h _ _ _ _).bind ?_
  rintro ⟨⟨⟩ | fault | -, q⟩
  · exact q.drainWithin_agree h _ _
  · exact .pure _
  · exact .pure _

end Pool

/-- What a load does when the inside of its scope is over. -/
def leaveScope {m : Type → Type} [Monad m] (env : Environment m) (request : LoadRequest) :
    Outcome Unit × Pool → m LoadResult
  | (.unfinished, _) => pure .unfinished
  | (.raised fault, p) => do
    let (closing, _) ← p.abort env
    pure (.failed fault closing)
  | (.returned (), p) => do
    match ← p.close env with
    | (.error fault, _) => pure (.failed fault none)
    | (.ok (), p) => do
      env.tell (.log (.loadFinished request.path p.completed p.abandoned))
      pure (.finished p.completed p.abandoned)

/-- A load is its inside and leaving its scope. -/
theorem load_eq {m : Type → Type} [Monad m] (env : Environment m) (patience : Patience)
    {policy : LoadPolicy} {request : LoadRequest} {limits : PoolLimits}
    (hlimits : policy.limits? request = .ok limits) :
    load env patience policy request =
      Pool.loadAll env patience request { limits } >>= leaveScope env request := by
  unfold load
  rw [hlimits]
  refine congrArg (Pool.loadAll env patience request { limits } >>= ·) (funext ?_)
  rintro ⟨⟨⟩ | fault | -, p⟩ <;> rfl

theorem leaveScope_agree (h : E.AgreesWith R Good F) (request : LoadRequest)
    (inside : Outcome Unit × Pool) :
    Agree R Good (leaveScope E request inside) (leaveScope F request inside) := by
  obtain ⟨⟨⟩ | fault | -, p⟩ := inside
  · refine (p.close_agree h).bind ?_
    rintro ⟨fault | ⟨⟩, q⟩
    · exact .pure _
    · exact (h.log _).bind fun _ => .pure _
  · exact (p.abort_agree h).bind fun _ => .pure _
  · exact .pure _

/-- **Environments that agree lead a load along the same way.** -/
theorem load_agree (h : E.AgreesWith R Good F) (patience : Patience) (policy : LoadPolicy)
    (request : LoadRequest) :
    Agree R Good (load E patience policy request) (load F patience policy request) := by
  cases hlimits : policy.limits? request with
  | error fault =>
      unfold load
      rw [hlimits]
      exact .pure _
  | ok limits =>
      rw [load_eq E patience hlimits, load_eq F patience hlimits]
      exact (Pool.loadAll_agree _ h patience request).bind (leaveScope_agree h request)

end LoadDispatch
