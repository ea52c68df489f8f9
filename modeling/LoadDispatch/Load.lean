import LoadDispatch.Pool.Admission

/-!
# Loads

A load brings a file, or all files below a folder, into the cache.  It walks the tree depth first
in the order of listing and admits a job for every file that is not fully resident; since a full
pool makes admission wait, the walk never runs ahead of the service by more than the capacity.  A
folder met in a listing is asked for its own metadata again before it is listed.

Each file is reported to the person, once nothing is left to do or its job is admitted.

After the walk the pool is drained.  A fault of the walk or of draining ends the load, after the
sessions in flight are closed; it is the load's fault, whatever closing brings.
-/

namespace LoadDispatch

variable {m : Type → Type} [Monad m]

namespace Pool

/-- Reports a step. -/
def reportStep (env : Environment m) (step : Progress) (p : Pool) : m (Outcome Unit × Pool) := do
  match ← env.report step with
  | .ok () => pure (.returned (), p)
  | .error fault => pure (.raised fault, p)

/-- Deals with one file: admits a job for it, unless it is fully resident. -/
def loadFile (env : Environment m) (passes : Nat) (replication : Int) (file : FileStatus)
    (p : Pool) : m (Outcome Unit × Pool) :=
  if file.fullyResident then p.reportStep env (.alreadyLoaded file.path)
  else do
    match ← p.admitJob env passes { path := file.path, replication } with
    | (.returned _, p) => p.reportStep env (.loading file.path)
    | (.raised fault, p) => pure (.raised fault, p)
    | (.unfinished, p) => pure (.unfinished, p)

/-- Deals with what a folder lists, in order: with a file at once, with a folder by `descend`. -/
def loadChildren (env : Environment m) (passes : Nat) (replication : Int)
    (descend : String → Pool → m (Outcome Unit × Pool)) :
    List FileStatus → Pool → m (Outcome Unit × Pool)
  | [], p => pure (.returned (), p)
  | child :: rest, p => do
    let step :=
      if child.folder then descend child.path p else p.loadFile env passes replication child
    match ← step with
    | (.returned (), p) => loadChildren env passes replication descend rest p
    | (.raised fault, p) => pure (.raised fault, p)
    | (.unfinished, p) => pure (.unfinished, p)

/-- Walks the tree below a path, to a given depth of folders. -/
def loadPath (env : Environment m) (passes : Nat) (replication : Int) :
    Nat → String → Pool → m (Outcome Unit × Pool)
  | 0, _, p => pure (.unfinished, p)
  | depth + 1, path, p => do
    match ← env.files.stat path with
    | .error fault => pure (.raised fault, p)
    | .ok status =>
      if status.folder then do
        match ← env.files.list path with
        | .error fault => pure (.raised fault, p)
        | .ok children =>
          loadChildren env passes replication (loadPath env passes replication depth) children p
      else p.loadFile env passes replication status

end Pool

/-- What every load of a service has in common. -/
structure LoadPolicy where
  /-- The greatest number of jobs in flight, if a load does not say otherwise. -/
  maxActiveJobs : Int := PoolLimits.defaultCapacity
  /-- The submissions each job has. -/
  submissions : Int := RetryBudget.defaultLimit
  /-- The seconds to wait between two passes. -/
  pollInterval : Float := 0.0
  /-- The greatest number of status queries at once. -/
  statusChecks : Int := PoolLimits.defaultStatusChecks

/-- What to load. -/
structure LoadRequest where
  /-- The file or folder. -/
  path : String
  /-- The number of replicas of each block. -/
  replication : Int := 1
  /-- The greatest number of jobs in flight, if not the one of the policy. -/
  maxActiveJobs : Option Int := none
deriving DecidableEq, Repr

/-- How a load went. -/
inductive LoadResult where
  /-- All jobs are done: so many finished, so many given up. -/
  | finished (completed abandoned : Nat)
  /-- The load ended early; with the fault of closing, if there was one to be noted. -/
  | failed (fault : Fault) (closing : Option Fault)
  /-- Its patience ran out. -/
  | unfinished
deriving DecidableEq, Repr

/-- Walks the tree and waits for all jobs, inside the scope of a pool. -/
def Pool.loadAll (env : Environment m) (patience : Patience) (request : LoadRequest) (p : Pool) :
    m (Outcome Unit × Pool) := do
  match ← p.loadPath env patience.passes request.replication patience.depth request.path with
  | (.returned (), p) => p.drain env patience.passes
  | (.raised fault, p) => pure (.raised fault, p)
  | (.unfinished, p) => pure (.unfinished, p)

/-- The limits of the pool of a load. -/
def LoadPolicy.limits? (policy : LoadPolicy) (request : LoadRequest) : Except Fault PoolLimits :=
  if request.replication < 1 then .error .noReplication
  else
    PoolLimits.ofRequest? (request.maxActiveJobs.getD policy.maxActiveJobs) policy.submissions
      policy.pollInterval policy.statusChecks

/-- Loads a file or all files below a folder. -/
def load (env : Environment m) (patience : Patience) (policy : LoadPolicy)
    (request : LoadRequest) : m LoadResult := do
  match policy.limits? request with
  | .error fault => pure (.failed fault none)
  | .ok limits => do
    match ← Pool.loadAll env patience request { limits } with
    | (.unfinished, _) => pure .unfinished
    | (.raised fault, p) => do
      let (closing, _) ← p.abort env
      pure (.failed fault closing)
    | (.returned (), p) => do
      match ← p.close env with
      | (.error fault, _) => pure (.failed fault none)
      | (.ok (), p) => do
        env.tell (.log (.loadFinished request.path p.completed p.abandoned))
        pure (.finished p.completed p.abandoned)

end LoadDispatch
