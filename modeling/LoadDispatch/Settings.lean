import LoadDispatch.Load
import LoadDispatch.Schema.Field
import LoadDispatch.Text.Lower
import LoadDispatch.Text.Upper

/-!
# Settings

The settings of the dispatcher, each with a default.  A value comes from one of two sources: it is
given by the caller, or it stands in an environment variable whose name is the field's behind
`DISTRIBUTED_LOAD_`, in any case.  What is given counts first.

Settings are read in two steps.  Every field is read by its kind; all fields that cannot be read
are reported together.  If all can, the rules of `Settings.rules` are tried in their order, and the
first that is broken is reported alone.
-/

namespace LoadDispatch

/-- The settings. -/
structure Settings where
  /-- The address of the storage system. -/
  metadataEndpoint : String := "http://localhost:39999"
  /-- The address of the job service. -/
  jobServiceEndpoint : String := "http://localhost:20002"
  /-- The seconds to wait for each step of a request. -/
  requestTimeout : Float := 10.0
  /-- The number of replicas, if a load does not say otherwise. -/
  defaultReplication : Int := 1
  /-- The greatest number of jobs in flight, if a load does not say otherwise. -/
  maxActiveJobs : Int := 1000
  /-- The submissions each job has. -/
  maxSubmitAttempts : Int := 3
  /-- The seconds to wait between two passes. -/
  pollInterval : Float := 0.05
  /-- The greatest number of status queries at once. -/
  statusCheckConcurrency : Int := 16
  /-- The name of the log level. -/
  logLevel : String := "INFO"

namespace Settings

open Schema (Field Reading Report Violation)

/-- The title of the schema. -/
def title : String := "Settings"

/-- The field of the address of the storage system. -/
def metadataEndpointField : Field := { name := "metadata_endpoint" }

/-- The field of the address of the job service. -/
def jobServiceEndpointField : Field := { name := "job_service_endpoint" }

/-- The field of the time to wait for each step of a request. -/
def requestTimeoutField : Field := { name := "request_timeout_seconds" }

/-- The field of the number of replicas. -/
def defaultReplicationField : Field := { name := "default_replication" }

/-- The field of the number of jobs in flight. -/
def maxActiveJobsField : Field := { name := "max_active_jobs" }

/-- The field of the number of submissions. -/
def maxSubmitAttemptsField : Field := { name := "max_submit_attempts" }

/-- The field of the time to wait between two passes. -/
def pollIntervalField : Field := { name := "poll_interval_seconds" }

/-- The field of the number of status queries at once. -/
def statusCheckConcurrencyField : Field := { name := "status_check_concurrency" }

/-- The field of the name of the log level. -/
def logLevelField : Field := { name := "log_level" }

/-- All fields, in their order. -/
def fields : List Field :=
  [metadataEndpointField, jobServiceEndpointField, requestTimeoutField, defaultReplicationField,
    maxActiveJobsField, maxSubmitAttemptsField, pollIntervalField, statusCheckConcurrencyField,
    logLevelField]

/-- Where settings come from. -/
structure Sources where
  /-- The environment variables, in order; of two names that differ in case only, the last
  counts. -/
  environment : List (String × String) := []
  /-- The values given by the caller. -/
  given : List (String × Json) := []

/-- What stands in front of a field's name in an environment variable, in lower case. -/
def variableStart : String := "distributed_load_"

/-- The text of a field's environment variable. -/
def Sources.environmentText? (s : Sources) (f : Field) : Option String :=
  (s.environment.reverse.find? fun v => Text.lower v.1 == variableStart ++ f.name).map Prod.snd

/-- The value of a field, from the first source that has one. -/
def Sources.value? (s : Sources) (f : Field) : Option Json :=
  s.given.lookup f.name <|> (s.environmentText? f).map Json.str

/-- The values of all fields that have one. -/
def Sources.members (s : Sources) : List (String × Json) :=
  fields.filterMap fun f => (s.value? f).map (f.name, ·)

/-- Reads every field by its kind. -/
def readFields (members : List (String × Json)) : Reading Settings :=
  let d : Settings := {}
  let text (f : Field) (default : String) :=
    f.optional default (.ofScalar ∘ Schema.readText) members
  let whole (f : Field) (default : Int) :=
    f.optional default (.ofScalar ∘ Schema.readWhole) members
  let real (f : Field) (default : Float) :=
    f.optional default (.ofScalar ∘ Schema.readReal) members
  let all :=
    (text metadataEndpointField d.metadataEndpoint).pair <|
    (text jobServiceEndpointField d.jobServiceEndpoint).pair <|
    (real requestTimeoutField d.requestTimeout).pair <|
    (whole defaultReplicationField d.defaultReplication).pair <|
    (whole maxActiveJobsField d.maxActiveJobs).pair <|
    (whole maxSubmitAttemptsField d.maxSubmitAttempts).pair <|
    (real pollIntervalField d.pollInterval).pair <|
    (whole statusCheckConcurrencyField d.statusCheckConcurrency).pair <|
    text logLevelField d.logLevel
  match all with
  | .ok (metadataEndpoint, jobServiceEndpoint, requestTimeout, defaultReplication, maxActiveJobs,
      maxSubmitAttempts, pollInterval, statusCheckConcurrency, logLevel) =>
    .ok { metadataEndpoint, jobServiceEndpoint, requestTimeout, defaultReplication, maxActiveJobs,
          maxSubmitAttempts, pollInterval, statusCheckConcurrency, logLevel }
  | .error violations => .error violations

/-- A rule that settings may not break. -/
structure SettingRule where
  /-- Whether settings break it. -/
  broken : Settings → Bool
  /-- What is said of settings that do. -/
  words : String

/-- Whether a text has nothing but blanks. -/
def isBlankText (s : String) : Bool :=
  Text.trim s == ""

/-- The rules, in the order in which they are tried.  The bounds on floats are stated as what is
refused, so a value that compares with nothing breaks none. -/
def rules : List SettingRule := [
  ⟨fun s => isBlankText s.metadataEndpoint,
    "DISTRIBUTED_LOAD_METADATA_ENDPOINT cannot be empty."⟩,
  ⟨fun s => isBlankText s.jobServiceEndpoint,
    "DISTRIBUTED_LOAD_JOB_SERVICE_ENDPOINT cannot be empty."⟩,
  ⟨fun s => s.requestTimeout ≤ 0.0, "DISTRIBUTED_LOAD_REQUEST_TIMEOUT_SECONDS must be > 0."⟩,
  ⟨fun s => s.defaultReplication < 1, "DISTRIBUTED_LOAD_DEFAULT_REPLICATION must be >= 1."⟩,
  ⟨fun s => s.maxActiveJobs < 1, "DISTRIBUTED_LOAD_MAX_ACTIVE_JOBS must be >= 1."⟩,
  ⟨fun s => s.maxSubmitAttempts < 1, "DISTRIBUTED_LOAD_MAX_SUBMIT_ATTEMPTS must be >= 1."⟩,
  ⟨fun s => s.pollInterval < 0.0, "DISTRIBUTED_LOAD_POLL_INTERVAL_SECONDS must be >= 0."⟩,
  ⟨fun s => s.statusCheckConcurrency < 1,
    "DISTRIBUTED_LOAD_STATUS_CHECK_CONCURRENCY must be >= 1."⟩]

/-- Settings that break no rule, with the log level in its one form. -/
def checkRules (s : Settings) : Reading Settings :=
  match rules.find? (·.broken s) with
  | some rule => .error [⟨[], .agreed rule.words⟩]
  | none => .ok { s with logLevel := Text.upper (Text.trim s.logLevel) }

/-- Reads settings from their sources. -/
def read (sources : Sources) : Except Report Settings :=
  Reading.titled title <|
    match readFields sources.members with
    | .ok s => checkRules s
    | .error violations => .error violations

/-- What every load under these settings has in common. -/
def policy (s : Settings) : LoadPolicy where
  maxActiveJobs := s.maxActiveJobs
  submissions := s.maxSubmitAttempts
  pollInterval := s.pollInterval
  statusChecks := s.statusCheckConcurrency

end Settings

end LoadDispatch
