import LoadDispatch.Decimal.Numeral

/-!
# Arguments

The command takes one path and four options.  Arguments are read in two steps.

First they are split: an argument that begins with `-` names an option, followed by its value, in
the same argument behind `=` or in the next one, whatever that looks like.  Everything else is a
path, and everything behind `--` is.  Options and paths may be mixed, and of an option that is
given twice the last value counts.  What cannot be split is a usage error.

Then `--help` and `--version` are looked for; the one that comes first is obeyed whatever else
stands there.  Only without them the values are read: exactly one path, and positive integers for
the two numbers.
-/

namespace LoadDispatch.CommandLine

/-- The options that take a value. -/
inductive ValueOption where
  | replication
  | activeJobs
  | logLevel
deriving DecidableEq, Repr

/-- The options that take none, and end the command. -/
inductive FlagOption where
  | version
  | help
deriving DecidableEq, Repr

/-- The value options and their names. -/
def valueOptions : List (String × ValueOption) :=
  [("--replication", .replication), ("--active-jobs", .activeJobs),
    ("--active_jobs", .activeJobs), ("--log-level", .logLevel)]

/-- The flags and their names. -/
def flagOptions : List (String × FlagOption) :=
  [("--version", .version), ("--help", .help)]

/-- The arguments after splitting. -/
structure Split where
  /-- The paths, in order. -/
  paths : List String := []
  /-- The values of options, in order. -/
  values : List (ValueOption × String) := []
  /-- The flags, in order. -/
  flags : List FlagOption := []
deriving DecidableEq, Repr

/-- The name of an option and the value behind `=`, if there is one. -/
def cutValue (argument : String) : String × Option String :=
  let cs := argument.toList
  let name := cs.takeWhile (· != '=')
  match cs.drop name.length with
  | _ :: value => (String.ofList name, some (String.ofList value))
  | [] => (argument, none)

/-- Whether an argument names an option. -/
def looksLikeOption (argument : String) : Bool :=
  match argument.toList with
  | '-' :: _ :: _ => true
  | _ => false

/-- Splits arguments; `none` is a usage error. -/
def split? : List String → Option Split
  | [] => some {}
  | argument :: rest =>
    if argument = "--" then some { paths := rest }
    else if looksLikeOption argument then
      let (name, inline) := cutValue argument
      match flagOptions.lookup name, valueOptions.lookup name, inline, rest with
      | some flag, _, none, rest => (split? rest).map fun s => { s with flags := flag :: s.flags }
      | none, some option, some value, rest =>
        (split? rest).map fun s => { s with values := (option, value) :: s.values }
      | none, some option, none, value :: rest =>
        (split? rest).map fun s => { s with values := (option, value) :: s.values }
      | _, _, _, _ => none
    else (split? rest).map fun s => { s with paths := argument :: s.paths }

/-- The last value of an option. -/
def Split.value? (s : Split) (option : ValueOption) : Option String :=
  s.values.reverse.lookup option

/-- What to load, and how. -/
structure Invocation where
  /-- The file or folder. -/
  path : String
  /-- The number of replicas, if it is given. -/
  replication : Option Int := none
  /-- The greatest number of jobs in flight, if it is given. -/
  activeJobs : Option Int := none
  /-- The name of the log level, if it is given. -/
  logLevel : Option String := none
deriving DecidableEq, Repr

/-- What the arguments ask for. -/
inductive Wish where
  /-- To load. -/
  | run (invocation : Invocation)
  /-- To be told the version. -/
  | version
  /-- To be told how the command is used. -/
  | help
  /-- Nothing that can be done. -/
  | unusable
deriving DecidableEq, Repr

/-- Reads a positive integer. -/
def positive? (s : String) : Option Int :=
  match Decimal.Numeral.whole? s with
  | .ok n => if 1 ≤ n then some n else none
  | .error _ => none

/-- Reads the value of an option that may be missing; the outer `none` is a usage error. -/
def optional? {α : Type} (read : String → Option α) : Option String → Option (Option α)
  | none => some none
  | some s => (read s).map some

/-- Reads the values of split arguments; `none` is a usage error. -/
def Split.invocation? (s : Split) : Option Invocation :=
  match s.paths with
  | [path] => do
    let replication ← optional? positive? (s.value? .replication)
    let activeJobs ← optional? positive? (s.value? .activeJobs)
    pure { path, replication, activeJobs, logLevel := s.value? .logLevel }
  | _ => none

/-- What arguments ask for. -/
def wish (arguments : List String) : Wish :=
  match split? arguments with
  | none => .unusable
  | some s =>
    match s.flags with
    | .version :: _ => .version
    | .help :: _ => .help
    | [] =>
      match s.invocation? with
      | some invocation => .run invocation
      | none => .unusable

end LoadDispatch.CommandLine
