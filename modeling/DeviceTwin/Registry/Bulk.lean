import DeviceTwin.Registry.Identity.Device
import DeviceTwin.Registry.Failure.Error
import DeviceTwin.Text.Blank

/-!
Bulk requests: up to a hundred devices that are created, updated or deleted together. A batch is checked as a whole
before anything is sent.
-/
namespace DeviceTwin.Registry

/-- What a bulk request does with a device. -/
inductive ImportMode where
  | create
  | update
  /-- Updates the device only as long as its tag has not changed. -/
  | updateIfMatchTag
  | delete
  /-- Deletes the device only as long as its tag has not changed. -/
  | deleteIfMatchTag
deriving DecidableEq

namespace ImportMode

def name : ImportMode → String
  | .create => "create"
  | .update => "update"
  | .updateIfMatchTag => "updateIfMatchETag"
  | .delete => "delete"
  | .deleteIfMatchTag => "deleteIfMatchETag"

/-- Needs the tag of every device. -/
def needsTag : ImportMode → Bool
  | .updateIfMatchTag => true
  | .deleteIfMatchTag => true
  | _ => false

end ImportMode

instance : Named ImportMode :=
  ⟨[.create, .update, .updateIfMatchTag, .delete, .deleteIfMatchTag], ImportMode.name, .create⟩

/-- A device in a bulk request, or in a blob that is imported or exported. -/
structure BulkEntry where
  id : String
  moduleId : Option String
  etag : Option String
  importMode : ImportMode
  status : DeviceStatus
  statusReason : Option String
  authentication : Option Authentication
  capabilities : Option Capabilities
  deviceScope : Option String
deriving DecidableEq

instance : JsonForm BulkEntry where
  schema := .record "ExportImportDevice"
    [needed String "id", possible String "moduleId", possible String "eTag", needed ImportMode "importMode",
     orDefault "status" DeviceStatus.enabled, possible String "statusReason",
     possible Authentication "authentication", possible Capabilities "capabilities", possible String "deviceScope"]
  toJson e := .obj <|
    field "id" e.id ++ field? "moduleId" e.moduleId ++ field? "eTag" e.etag ++ field "importMode" e.importMode ++
    field "status" e.status ++ field? "statusReason" e.statusReason ++ field? "authentication" e.authentication ++
    field? "capabilities" e.capabilities ++ field? "deviceScope" e.deviceScope
  ofJson j := {
    id := valueOf "id" j
    moduleId := valueOf? "moduleId" j
    etag := valueOf? "eTag" j
    importMode := valueOf "importMode" j
    status := valueOf "status" j
    statusReason := valueOf? "statusReason" j
    authentication := valueOf? "authentication" j
    capabilities := valueOf? "capabilities" j
    deviceScope := valueOf? "deviceScope" j }

/-- The entry of a device. -/
def BulkEntry.ofDevice (mode : ImportMode) (d : Device) : BulkEntry where
  id := d.id
  moduleId := none
  etag := d.etag
  importMode := mode
  status := d.status
  statusReason := d.statusReason
  authentication := d.authentication
  capabilities := d.capabilities
  deviceScope := d.deviceScope

/-- An identifier is more than blanks. -/
def checkId (subject : Subject) (id : String) : Except RegistryError Unit :=
  if Text.isBlankText id then .error (.emptyIdentifier subject) else .ok ()

/-- A tag that is more than blanks. -/
def hasTag (etag : Option String) : Bool :=
  match etag with
  | some tag => !Text.isBlankText tag
  | none => false

/-- The entries of some devices behind those of the identifiers `seen`. -/
def batchFrom (mode : ImportMode) (seen : List String) : List Device → Except RegistryError (List BulkEntry)
  | [] => .ok []
  | d :: rest => do
    checkId .device d.id
    if seen.contains d.id then throw (.repeatedDevice d.id)
    if mode.needsTag && !hasTag d.etag then throw (.deviceWithoutTag d.id)
    let entries ← batchFrom mode (d.id :: seen) rest
    pure (.ofDevice mode d :: entries)

/-- The entries of a bulk request. -/
def batch (mode : ImportMode) (devices : List Device) : Except RegistryError (List BulkEntry) :=
  if devices.isEmpty || devices.length > maxBulkDevices then .error (.batchSize devices.length)
  else batchFrom mode [] devices

/-- A device for which a bulk request failed. -/
structure BulkFailure where
  deviceId : String
  moduleId : Option String
  errorCode : String
  errorStatus : String
deriving DecidableEq

instance : JsonForm BulkFailure where
  schema := .record "DeviceRegistryOperationError"
    [needed String "deviceId", possible String "moduleId", needed String "errorCode", orDefault "errorStatus" ""]
  toJson e := .obj <|
    field "deviceId" e.deviceId ++ field? "moduleId" e.moduleId ++ field "errorCode" e.errorCode ++
    field "errorStatus" e.errorStatus
  ofJson j :=
    ⟨valueOf "deviceId" j, valueOf? "moduleId" j, valueOf "errorCode" j, valueOf "errorStatus" j⟩

def BulkFailure.code (e : BulkFailure) : ErrorCode := .ofName e.errorCode

/-- A device for which a bulk request succeeded with a warning. -/
structure BulkWarning where
  deviceId : String
  warningCode : String
  warningStatus : String
deriving DecidableEq

instance : JsonForm BulkWarning where
  schema := .record "DeviceRegistryOperationWarning"
    [needed String "deviceId", needed String "warningCode", orDefault "warningStatus" ""]
  toJson w := .obj <|
    field "deviceId" w.deviceId ++ field "warningCode" w.warningCode ++ field "warningStatus" w.warningStatus
  ofJson j := ⟨valueOf "deviceId" j, valueOf "warningCode" j, valueOf "warningStatus" j⟩

/-- What became of a bulk request. -/
structure BulkResult where
  isSuccessful : Bool
  errors : List BulkFailure
  warnings : List BulkWarning
deriving DecidableEq

instance : JsonForm BulkResult where
  schema := .record "BulkRegistryOperationResult"
    [needed Bool "isSuccessful", orDefault "errors" ([] : List BulkFailure),
     orDefault "warnings" ([] : List BulkWarning)]
  toJson r := .obj (field "isSuccessful" r.isSuccessful ++ field "errors" r.errors ++ field "warnings" r.warnings)
  ofJson j := ⟨valueOf "isSuccessful" j, valueOf "errors" j, valueOf "warnings" j⟩

end DeviceTwin.Registry
