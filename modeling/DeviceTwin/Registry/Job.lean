import DeviceTwin.Registry.JsonForm

/-!
Jobs that copy the whole registry to a blob container or from one. The service runs a job; a client submits it and
asks how it stands.
-/
namespace DeviceTwin.Registry

inductive JobType where
  | unknown
  | exportAll
  | importAll
deriving DecidableEq

def JobType.name : JobType → String
  | .unknown => "unknown"
  | .exportAll => "export"
  | .importAll => "import"

instance : Named JobType := ⟨[.unknown, .exportAll, .importAll], JobType.name, .unknown⟩

inductive JobStatus where
  | unknown
  | enqueued
  | running
  | completed
  | failed
  | cancelled
  | scheduled
  | queued
deriving DecidableEq

def JobStatus.name : JobStatus → String
  | .unknown => "unknown"
  | .enqueued => "enqueued"
  | .running => "running"
  | .completed => "completed"
  | .failed => "failed"
  | .cancelled => "cancelled"
  | .scheduled => "scheduled"
  | .queued => "queued"

instance : Named JobStatus :=
  ⟨[.unknown, .enqueued, .running, .completed, .failed, .cancelled, .scheduled, .queued], JobStatus.name, .unknown⟩

/-- The job will not change any more. -/
def JobStatus.isFinished : JobStatus → Bool
  | .completed => true
  | .failed => true
  | .cancelled => true
  | _ => false

/-- How the service gets at the blob containers. -/
inductive StorageAuthentication where
  /-- With keys in their addresses. -/
  | keyBased
  /-- With the identity of the service. -/
  | identityBased
deriving DecidableEq

def StorageAuthentication.name : StorageAuthentication → String
  | .keyBased => "keyBased"
  | .identityBased => "identityBased"

instance : Named StorageAuthentication := ⟨[.keyBased, .identityBased], StorageAuthentication.name, .keyBased⟩

structure Job where
  id : Option String
  type : JobType
  status : JobStatus
  /-- In percent. -/
  progress : UInt8
  inputContainer : Option String
  outputContainer : Option String
  /-- Keys are left out of what is exported. -/
  excludesKeys : Bool
  storageAuthentication : Option StorageAuthentication
  startTimeUtc : Option String
  endTimeUtc : Option String
  failureReason : Option String
deriving DecidableEq

instance : JsonForm Job where
  schema := .record "JobProperties"
    [possible String "jobId", needed JobType "type", orDefault "status" JobStatus.unknown,
     orDefault "progress" (0 : UInt8), possible String "inputBlobContainerUri",
     possible String "outputBlobContainerUri", orDefault "excludeKeysInExport" false,
     possible StorageAuthentication "storageAuthenticationType", possible String "startTimeUtc",
     possible String "endTimeUtc", possible String "failureReason"]
  toJson j := .obj <|
    field? "jobId" j.id ++ field "type" j.type ++ field "status" j.status ++ field "progress" j.progress ++
    field? "inputBlobContainerUri" j.inputContainer ++ field? "outputBlobContainerUri" j.outputContainer ++
    field "excludeKeysInExport" j.excludesKeys ++ field? "storageAuthenticationType" j.storageAuthentication ++
    field? "startTimeUtc" j.startTimeUtc ++ field? "endTimeUtc" j.endTimeUtc ++
    field? "failureReason" j.failureReason
  ofJson j := {
    id := valueOf? "jobId" j
    type := valueOf "type" j
    status := valueOf "status" j
    progress := valueOf "progress" j
    inputContainer := valueOf? "inputBlobContainerUri" j
    outputContainer := valueOf? "outputBlobContainerUri" j
    excludesKeys := valueOf "excludeKeysInExport" j
    storageAuthentication := valueOf? "storageAuthenticationType" j
    startTimeUtc := valueOf? "startTimeUtc" j
    endTimeUtc := valueOf? "endTimeUtc" j
    failureReason := valueOf? "failureReason" j }

namespace Job

/-- A job of a type that has not been submitted. -/
def new (type : JobType) (inputContainer outputContainer : Option String) (excludesKeys : Bool) : Job :=
  ⟨none, type, .unknown, 0, inputContainer, outputContainer, excludesKeys, none, none, none, none⟩

/-- Copies the registry to a container. -/
def ofExport (output : String) (excludesKeys : Bool) : Job :=
  new .exportAll none (some output) excludesKeys

/-- Copies a container into the registry, and what became of it to another one. -/
def ofImport (input output : String) : Job :=
  new .importAll (some input) (some output) false

def withStorageAuthentication (j : Job) (authentication : StorageAuthentication) : Job :=
  { j with storageAuthentication := some authentication }

end Job
end DeviceTwin.Registry
