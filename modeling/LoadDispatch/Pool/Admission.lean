import LoadDispatch.Pool.Sweep

/-!
# Admission, waiting, and the end of a pool

`admitJob` is the only way into a pool.  It waits for a slot while the pool is full, opens a session
for the new attempt, and submits it.  `waitForSlot` sweeps until an attempt leaves and waits the
poll interval between two sweeps; `drain` waits until nothing is in flight.

`close` releases all attempts in flight.  It goes on after a fault, and ends with the first one.
A scope around a pool ends in one of two ways.  If what was done inside went well, `close` is what
is left to do.  If it ended with a fault, that fault is the one that counts: `abort` closes, and
keeps a fault of closing only to be noted on the first one.
-/

namespace LoadDispatch.Pool

variable {m : Type → Type} [Monad m]

/-- Sweeps until an attempt leaves; answers how many left in the last sweep. -/
def sweepUntilFreed (env : Environment m) : Nat → Pool → m (Outcome Nat × Pool)
  | 0, p => pure (.unfinished, p)
  | passes + 1, p => do
    match ← p.sweep env with
    | (.error fault, p) => pure (.raised fault, p)
    | (.ok 0, p) => do
      env.pause p.limits.pollInterval
      sweepUntilFreed env passes p
    | (.ok (removed + 1), p) => pure (.returned (removed + 1), p)

/-- Waits until an attempt leaves; answers how many left.  With nothing in flight none ever
will. -/
def waitForSlot (env : Environment m) (passes : Nat) (p : Pool) : m (Outcome Nat × Pool) :=
  if p.inFlight.isEmpty then pure (.raised .nothingInFlight, p)
  else sweepUntilFreed env passes p

/-- Waits until nothing is in flight, a given number of times at most. -/
def drainWithin (env : Environment m) (passes : Nat) : Nat → Pool → m (Outcome Unit × Pool)
  | 0, p => pure (if p.inFlight.isEmpty then .returned () else .unfinished, p)
  | waits + 1, p =>
    if p.inFlight.isEmpty then pure (.returned (), p)
    else do
      match ← p.waitForSlot env passes with
      | (.returned _, p) => drainWithin env passes waits p
      | (.raised fault, p) => pure (.raised fault, p)
      | (.unfinished, p) => pure (.unfinished, p)

/-- Waits until nothing is in flight.  Every wait takes at least one attempt out, so there are no
more waits than attempts. -/
def drain (env : Environment m) (passes : Nat) (p : Pool) : m (Outcome Unit × Pool) :=
  drainWithin env passes p.inFlight.length p

/-- Opens a session for a job and submits it.  Once the session is open the attempt is in flight,
whatever becomes of the submission. -/
def place (env : Environment m) (config : JobConfig) (p : Pool) :
    m (Except Fault Attempt × Pool) := do
  match ← env.jobs.connect with
  | .error fault => pure (.error fault, p)
  | .ok session => do
    let fresh : Attempt := { session, config, budget := p.limits.budget }
    ({ p with inFlight := p.inFlight ++ [fresh] } : Pool).tellCount env
    let (answer, attempt) ← fresh.submit env
    let p := { p with inFlight := p.inFlight ++ [attempt] }
    match answer with
    | .error fault => pure (.error fault, p)
    | .ok _ => do
      env.tell (.log (.admitted config.path p.inFlight.length p.limits.capacity))
      pure (.ok attempt, p)

/-- Admits a job, after waiting for a slot if the pool is full. -/
def admitJob (env : Environment m) (passes : Nat) (config : JobConfig) (p : Pool) :
    m (Outcome Attempt × Pool) := do
  if p.isFull then do
    match ← p.waitForSlot env passes with
    | (.returned _, p) => do
      let (answer, p) ← p.place env config
      pure (.ofExcept answer, p)
    | (.raised fault, p) => pure (.raised fault, p)
    | (.unfinished, p) => pure (.unfinished, p)
  else do
    let (answer, p) ← p.place env config
    pure (.ofExcept answer, p)

/-- Releases attempts in order, all of them; answers the first fault, and the attempts
afterwards. -/
def releaseAll (env : Environment m) : List Attempt → m (Option Fault × List Attempt)
  | [] => pure (none, [])
  | a :: rest => do
    match ← a.release env with
    | (.ok (), a) => do
      let (fault, rest) ← releaseAll env rest
      pure (fault, a :: rest)
    | (.error fault, a) => do
      env.tell (.log (.releaseFailed a.config.path fault))
      let (_, rest) ← releaseAll env rest
      pure (some fault, a :: rest)

/-- Releases every attempt in flight. -/
def close (env : Environment m) (p : Pool) : m (Except Fault Unit × Pool) := do
  let p' : Pool := { p with inFlight := [] }
  p'.tellCount env
  let (fault, released) ← releaseAll env p.inFlight
  let p := { p' with departed := p.departed ++ released.map (⟨.closed, ·⟩) }
  match fault with
  | some fault => pure (.error fault, p)
  | none => pure (.ok (), p)

/-- Leaves the scope of a pool after a fault; answers the fault of closing, if any. -/
def abort (env : Environment m) (p : Pool) : m (Option Fault × Pool) := do
  match ← p.close env with
  | (.ok (), p) => pure (none, p)
  | (.error closing, p) => pure (some closing, p)

end LoadDispatch.Pool
