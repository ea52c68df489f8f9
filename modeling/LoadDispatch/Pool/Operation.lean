import LoadDispatch.Pool.Admission

/-!
# Operations on a pool

Everything the owner of a pool can do, as data: the five operations of the pool itself, leaving
its scope with or without a fault, and calling an attempt the pool has handed out, in flight or
not.  A history of a pool is a list of operations, performed one after the other.
-/

namespace LoadDispatch.Pool

/-- What the owner of a pool can do. -/
inductive Operation where
  /-- Admit a job. -/
  | admitJob (config : JobConfig)
  /-- Wait for an attempt to leave. -/
  | waitForSlot
  /-- Wait until nothing is in flight. -/
  | drain
  /-- Release all attempts in flight. -/
  | close
  /-- Leave the scope of the pool, because of a fault if one is given. -/
  | leave (pending : Option Fault)
  /-- Call the attempt with the given session. -/
  | call (session : Session) (call : Attempt.Call)
deriving DecidableEq, Repr

/-- The answer of an operation. -/
inductive Reply where
  /-- The attempt that was admitted. -/
  | admitted (attempt : Attempt)
  /-- How many attempts left in the last sweep. -/
  | freed (count : Nat)
  /-- Done. -/
  | done
  /-- The scope is left; with the fault of closing, if there was one to be noted. -/
  | left (closing : Option Fault)
  /-- The answer of an attempt. -/
  | called (reply : Attempt.Reply)
deriving DecidableEq, Repr

variable {m : Type → Type} [Monad m]

/-- The attempt with a session, in flight or departed. -/
def find? (p : Pool) (session : Session) : Option Attempt :=
  (p.inFlight ++ p.departed.map (·.attempt)).find? (·.session == session)

/-- Puts a new state of an attempt in the place of its old one. -/
def replace (p : Pool) (a : Attempt) : Pool :=
  let put (b : Attempt) : Attempt := if b.session = a.session then a else b
  { p with
    inFlight := p.inFlight.map put
    departed := p.departed.map fun d => { d with attempt := put d.attempt } }

/-- Calls an attempt that the pool has handed out. -/
def call (env : Environment m) (session : Session) (c : Attempt.Call) (p : Pool) :
    m (Option (Except Fault Attempt.Reply) × Pool) :=
  match p.find? session with
  | none => pure (none, p)
  | some a => do
    let (answer, a) ← a.perform env c
    pure (some answer, p.replace a)

/-- Performs one operation.  A call to an attempt that the pool never had does nothing. -/
def perform (env : Environment m) (passes : Nat) (p : Pool) :
    Operation → m (Outcome Reply × Pool)
  | .admitJob config => do
    let (outcome, p) ← p.admitJob env passes config
    pure (outcome.map Reply.admitted, p)
  | .waitForSlot => do
    let (outcome, p) ← p.waitForSlot env passes
    pure (outcome.map Reply.freed, p)
  | .drain => do
    let (outcome, p) ← p.drain env passes
    pure (outcome.map fun _ => Reply.done, p)
  | .close | .leave none => do
    let (answer, p) ← p.close env
    pure ((Outcome.ofExcept answer).map fun _ => Reply.done, p)
  | .leave (some _) => do
    let (closing, p) ← p.abort env
    pure (.returned (.left closing), p)
  | .call session c => do
    match ← p.call env session c with
    | (some answer, p) => pure ((Outcome.ofExcept answer).map Reply.called, p)
    | (none, p) => pure (.returned .done, p)

/-- Performs operations one after the other, whatever becomes of them; answers all outcomes, and
the pool afterwards. -/
def performAll (env : Environment m) (passes : Nat) (p : Pool) :
    List Operation → m (List (Outcome Reply) × Pool)
  | [] => pure ([], p)
  | o :: rest => do
    let (outcome, p) ← p.perform env passes o
    let (outcomes, p) ← performAll env passes p rest
    pure (outcome :: outcomes, p)

end LoadDispatch.Pool
