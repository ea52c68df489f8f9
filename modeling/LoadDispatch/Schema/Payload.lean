import LoadDispatch.FileStatus
import LoadDispatch.Job
import LoadDispatch.Schema.Field

/-!
# The payloads of both services

What the services send and take, as schemas over JSON.  For each payload there is a structure, a
reader, and a writer that names the fields either as this library does or as the services do
(`onWire`).  The status of a file needs no structure of its own: it is read into a `FileStatus`.
-/

namespace LoadDispatch.Schema

/-! ## The status of a file -/

namespace FileStatusPayload

/-- The field of the path. -/
def path : Field := { name := "path" }

/-- The field that tells folders. -/
def folder : Field := { name := "folder" }

/-- The field of the share that is in the cache, in percent. -/
def residency : Field := { name := "residency_percentage", wireName := some "residencyPercentage" }

/-- The field of the length in bytes. -/
def length : Field := { name := "length" }

/-- The title of the schema. -/
def title : String := "FileStatusPayload"

/-- The title of the schema of a list of these. -/
def listTitle : String := "list[FileStatusPayload]"

/-- Reads the members of an object. -/
def readMembers (members : List (String × Json)) : Reading FileStatus :=
  let path := path.required (.ofScalar ∘ readText) members
  let folder := folder.optional false (.ofScalar ∘ readTruth) members
  let residency := residency.optional 0 (.ofScalar ∘ atLeast 0 (atMost 100 readWhole)) members
  let length := length.optional 0 (.ofScalar ∘ atLeast 0 readWhole) members
  match path.pair (folder.pair (residency.pair length)) with
  | .ok (path, folder, residency, length) => .ok { path, folder, residency, length }
  | .error violations => .error violations

/-- Reads the status of a file. -/
def read (j : Json) : Except Report FileStatus :=
  (readObject readMembers j).titled title

/-- Reads a list of statuses, all or none. -/
def readList (j : Json) : Except Report (List FileStatus) :=
  (readArray (readObject readMembers) j).titled listTitle

/-- Writes the status of a file. -/
def write (onWire : Bool) (f : FileStatus) : Json :=
  .obj [(path.key onWire, .str f.path), (folder.key onWire, .bool f.folder),
    (residency.key onWire, .int f.residency), (length.key onWire, .int f.length)]

end FileStatusPayload

/-! ## What to load -/

/-- A job as the job service takes it. -/
structure LoadJobPayload where
  /-- The kind of job. -/
  type : String := "load"
  /-- The path of the file. -/
  filePath : String
  /-- The number of replicas. -/
  replication : Int
deriving DecidableEq, Repr

namespace LoadJobPayload

/-- The field of the kind of job. -/
def typeField : Field := { name := "type_", wireName := some "@type" }

/-- The field of the path. -/
def filePathField : Field := { name := "file_path", wireName := some "filePath" }

/-- The field of the number of replicas. -/
def replicationField : Field := { name := "replication" }

/-- The title of the schema. -/
def title : String := "LoadJobConfigPayload"

/-- Reads the members of an object. -/
def readMembers (members : List (String × Json)) : Reading LoadJobPayload :=
  let type := typeField.optional "load" (.ofScalar ∘ readText) members
  let filePath := filePathField.required (.ofScalar ∘ readText) members
  let replication := replicationField.required (.ofScalar ∘ atLeast 1 readWhole) members
  match type.pair (filePath.pair replication) with
  | .ok (type, filePath, replication) => .ok { type, filePath, replication }
  | .error violations => .error violations

/-- Reads a job. -/
def read (j : Json) : Except Report LoadJobPayload :=
  (readObject readMembers j).titled title

/-- The payload of a job.  It is read from the job's own values, so that its rules hold. -/
def ofConfig (config : JobConfig) : Except Report LoadJobPayload :=
  read (.obj [(filePathField.name, .str config.path),
    (replicationField.name, .int config.replication)])

/-- Writes a job. -/
def write (onWire : Bool) (p : LoadJobPayload) : Json :=
  .obj [(typeField.key onWire, .str p.type), (filePathField.key onWire, .str p.filePath),
    (replicationField.key onWire, .int p.replication)]

end LoadJobPayload

/-! ## A submission -/

/-- A submission as the job service takes it. -/
structure SubmissionPayload where
  /-- The job. -/
  job : LoadJobPayload
deriving DecidableEq, Repr

namespace SubmissionPayload

/-- The field of the job. -/
def jobField : Field := { name := "job_config", wireName := some "jobConfig" }

/-- The title of the schema. -/
def title : String := "RunJobRequest"

/-- Reads the members of an object. -/
def readMembers (members : List (String × Json)) : Reading SubmissionPayload :=
  match jobField.required (readObject LoadJobPayload.readMembers) members with
  | .ok job => .ok { job }
  | .error violations => .error violations

/-- Reads a submission. -/
def read (j : Json) : Except Report SubmissionPayload :=
  (readObject readMembers j).titled title

/-- Writes a submission. -/
def write (onWire : Bool) (p : SubmissionPayload) : Json :=
  .obj [(jobField.key onWire, p.job.write onWire)]

end SubmissionPayload

/-! ## The answers of the job service -/

/-- The field of a job's number. -/
def jobIdField : Field := { name := "job_id", wireName := some "jobId" }

/-- The answer to a submission. -/
structure SubmittedPayload where
  /-- The number of the job. -/
  jobId : Int
deriving DecidableEq, Repr

namespace SubmittedPayload

/-- The title of the schema. -/
def title : String := "RunJobResponse"

/-- Reads the members of an object. -/
def readMembers (members : List (String × Json)) : Reading SubmittedPayload :=
  match jobIdField.required (.ofScalar ∘ readWhole) members with
  | .ok jobId => .ok { jobId }
  | .error violations => .error violations

/-- Reads an answer to a submission. -/
def read (j : Json) : Except Report SubmittedPayload :=
  (readObject readMembers j).titled title

/-- Writes an answer to a submission. -/
def write (onWire : Bool) (p : SubmittedPayload) : Json :=
  .obj [(jobIdField.key onWire, .int p.jobId)]

end SubmittedPayload

/-- The answer to a status query.  The status is any text here: a text that names no status is not
a broken answer but an unexpected one. -/
structure JobStatusPayload where
  /-- The number of the job. -/
  jobId : Int
  /-- The status, as it is written. -/
  status : String
deriving DecidableEq, Repr

namespace JobStatusPayload

/-- The field of the status. -/
def statusField : Field := { name := "status" }

/-- The title of the schema. -/
def title : String := "JobStatusResponse"

/-- Reads the members of an object. -/
def readMembers (members : List (String × Json)) : Reading JobStatusPayload :=
  let jobId := jobIdField.required (.ofScalar ∘ readWhole) members
  let status := statusField.required (.ofScalar ∘ readText) members
  match jobId.pair status with
  | .ok (jobId, status) => .ok { jobId, status }
  | .error violations => .error violations

/-- Reads an answer to a status query. -/
def read (j : Json) : Except Report JobStatusPayload :=
  (readObject readMembers j).titled title

/-- Writes an answer to a status query. -/
def write (onWire : Bool) (p : JobStatusPayload) : Json :=
  .obj [(jobIdField.key onWire, .int p.jobId), (statusField.key onWire, .str p.status)]

end JobStatusPayload

end LoadDispatch.Schema
