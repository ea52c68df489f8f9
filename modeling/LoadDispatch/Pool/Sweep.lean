import LoadDispatch.Pool.Basic

/-!
# Sweeps

A sweep is one pass over the attempts in flight.  It has two stages.

*Asking.*  Every attempt is asked for its status, oldest first.  All are asked, also when an
earlier one fails; if any failed, the sweep ends there with the first fault and has changed
nothing.

*Settling.*  The answers are gone through in the same order.  An attempt whose job is pending
stays; one whose job is finished leaves; one whose job failed is submitted again and stays, or
leaves if its budget is used up.  An attempt that leaves is released.  A fault breaks the sweep
off: what was settled before stays settled, the attempts behind stay in flight, and the attempt
itself stays exactly if it was not released.

`settleAll` is a recursion on the answers, so the state after a sweep, broken off or not, is read
off the list.
-/

namespace LoadDispatch

/-- What settling does to one attempt. -/
structure Settlement where
  /-- The attempt afterwards. -/
  attempt : Attempt
  /-- Why it leaves, if it does. -/
  departure : Option Departure := none
  /-- The fault that broke settling off, if any. -/
  fault : Option Fault := none

/-- What settling does to a list of attempts. -/
structure Sweep where
  /-- The attempts that stay in flight. -/
  kept : List Attempt := []
  /-- The attempts that leave. -/
  gone : List Departed := []
  /-- The fault that broke the sweep off, if any. -/
  fault : Option Fault := none

variable {m : Type → Type} [Monad m]

namespace Attempt

/-- Releases an attempt that leaves. -/
def depart (env : Environment m) (a : Attempt) (why : Departure) : m Settlement := do
  match ← a.release env with
  | (.ok (), a) => pure { attempt := a, departure := some why }
  | (.error fault, a) => pure { attempt := a, departure := some why, fault := some fault }

/-- Does what a status calls for. -/
def settle (env : Environment m) (a : Attempt) : PolledStatus → m Settlement
  | .known .created | .known .running => pure { attempt := a }
  | .known .completed => do
    env.tell (.log (.finished a.config.path .completed))
    a.depart env .completed
  | .known .canceled => do
    env.tell (.log (.finished a.config.path .canceled))
    a.depart env .completed
  | .known .failed => do
    match ← a.submit env with
    | (.ok true, a) => pure { attempt := a }
    | (.ok false, a) => a.depart env .abandoned
    | (.error fault, a) => pure { attempt := a, fault := some fault }
  | .unknown text => pure { attempt := a, fault := some (.unhandledStatus text) }

end Attempt

namespace Sweep

/-- A sweep with one attempt more in front. -/
def cons (first : Settlement) (rest : Sweep) : Sweep :=
  match first.departure with
  | none => { rest with kept := first.attempt :: rest.kept }
  | some why => { rest with gone := ⟨why, first.attempt⟩ :: rest.gone }

/-- A sweep that is broken off in front of attempts, which all stay. -/
def broken (behind : List Attempt) (fault : Fault) : Sweep :=
  { kept := behind, fault := some fault }

/-- How many attempts leave for a reason. -/
def count (s : Sweep) (why : Departure) : Nat :=
  s.gone.countP (·.why == why)

end Sweep

/-- Settles attempts in order, each with its status. -/
def settleAll (env : Environment m) : List (Attempt × PolledStatus) → m Sweep
  | [] => pure {}
  | (a, status) :: rest => do
    let first ← a.settle env status
    match first.fault with
    | some fault => pure (.cons first (.broken (rest.map Prod.fst) fault))
    | none => do
      let sweep ← settleAll env rest
      pure (.cons first sweep)

/-- Asks every attempt for its status, in order. -/
def askAll (env : Environment m) : List Attempt → m (List (Except Fault PolledStatus))
  | [] => pure []
  | a :: rest => do
    let answer ← a.status env
    let answers ← askAll env rest
    pure (answer :: answers)

/-- All answers, or the first fault among them. -/
def collect {α : Type} : List (Except Fault α) → Except Fault (List α)
  | [] => .ok []
  | .ok a :: rest => (collect rest).map (a :: ·)
  | .error fault :: _ => .error fault

namespace Pool

/-- The number of attempts that a pass asks the service about. -/
def pollable (p : Pool) : Nat :=
  p.inFlight.countP (·.asksFor.isSome)

/-- The pool after a sweep. -/
def applySweep (p : Pool) (s : Sweep) : Pool :=
  { p with
    inFlight := s.kept
    departed := p.departed ++ s.gone
    completed := p.completed + s.count .completed
    abandoned := p.abandoned + s.count .abandoned }

/-- Ends a sweep, given the answers of the attempts in flight in their order; answers how many
left.  A fault among the answers leaves the pool as it is. -/
def finishSweep (env : Environment m) (p : Pool) (answers : List (Except Fault PolledStatus)) :
    m (Except Fault Nat × Pool) :=
  match collect answers with
  | .error fault => pure (.error fault, p)
  | .ok statuses => do
    let s ← settleAll env (p.inFlight.zip statuses)
    let p := p.applySweep s
    p.tellCount env
    match s.fault with
    | some fault => pure (.error fault, p)
    | none => pure (.ok s.gone.length, p)

/-- One pass over the attempts in flight; answers how many left. -/
def sweep (env : Environment m) (p : Pool) : m (Except Fault Nat × Pool) := do
  env.tell (.pass (min p.limits.statusChecks p.pollable))
  let answers ← askAll env p.inFlight
  p.finishSweep env answers

end Pool

end LoadDispatch
