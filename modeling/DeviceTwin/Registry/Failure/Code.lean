import DeviceTwin.Text.Split

/-!
What the service calls its errors. A code is a number whose first three digits are an HTTP status, with a name and with
the kind of error that it stands for; one name belongs to two codes, and then the first of them counts. Names are
compared without regard to case.
-/
namespace DeviceTwin.Registry

inductive ErrorKind where
  | argumentInvalid
  | invalidOperation
  | responseDeserialization
  | communication
  | badFormat
  | invalidProtocolVersion
  | deviceDefinedMultipleTimes
  | bulkRegistryOperationFailure
  | unauthorized
  | quotaExceeded
  | deviceMaximumQueueDepthExceeded
  | serviceSuspended
  | notFound
  | deviceNotFound
  | moduleNotFound
  | configurationNotFound
  | jobNotFound
  | conflict
  | deviceAlreadyExists
  | moduleAlreadyExists
  | configurationAlreadyExists
  | preconditionFailed
  | deviceMessageLockLost
  | messageTooLarge
  | tooManyDevices
  | tooManyModulesOnDevice
  | throttling
  | throttleBacklogLimitExceeded
  | serverError
  | serverBusy
  | gatewayTimeout
  | unknown
deriving DecidableEq

namespace ErrorKind

def title : ErrorKind → String
  | .argumentInvalid => "Argument Invalid"
  | .invalidOperation => "Invalid Operation"
  | .responseDeserialization => "Response Deserialization"
  | .communication => "IoT Hub Communication"
  | .badFormat => "Bad Format"
  | .invalidProtocolVersion => "Invalid Protocol Version"
  | .deviceDefinedMultipleTimes => "Device Defined Multiple Times"
  | .bulkRegistryOperationFailure => "Bulk Registry Operation Failure"
  | .unauthorized => "Unauthorized"
  | .quotaExceeded => "Quota Exceeded"
  | .deviceMaximumQueueDepthExceeded => "Device Maximum Queue Depth Exceeded"
  | .serviceSuspended => "IoT Hub Suspended"
  | .notFound => "Not Found"
  | .deviceNotFound => "Device Not Found"
  | .moduleNotFound => "Module Not Found"
  | .configurationNotFound => "Configuration Not Found"
  | .jobNotFound => "Job Not Found"
  | .conflict => "Conflict"
  | .deviceAlreadyExists => "Device Already Exists"
  | .moduleAlreadyExists => "Module Already Exists"
  | .configurationAlreadyExists => "Configuration Already Exists"
  | .preconditionFailed => "Precondition Failed"
  | .deviceMessageLockLost => "Device Message Lock Lost"
  | .messageTooLarge => "Message Too Large"
  | .tooManyDevices => "Too Many Devices"
  | .tooManyModulesOnDevice => "Too Many Modules On Device"
  | .throttling => "Throttling"
  | .throttleBacklogLimitExceeded => "Throttle Backlog Limit Exceeded"
  | .serverError => "Server Error"
  | .serverBusy => "Server Busy"
  | .gatewayTimeout => "Gateway Timeout"
  | .unknown => "Invalid Error Code"

/-- A request that fails like this may succeed if it is repeated as it is. -/
def isTransient : ErrorKind → Bool
  | .communication => true
  | .quotaExceeded => true
  | .throttling => true
  | .throttleBacklogLimitExceeded => true
  | .serverError => true
  | .serverBusy => true
  | .gatewayTimeout => true
  | _ => false

end ErrorKind

inductive ErrorCode where
  | invalidProtocolVersion
  | invalidOperation
  | argumentInvalid
  | argumentNull
  | formatError
  | deviceDefinedMultipleTimes
  | deserializationError
  | bulkRegistryOperationFailure
  | unauthorizedAccess
  | quotaExceeded
  | deviceMaximumQueueDepthExceeded
  | serviceSuspended
  | deviceNotFound
  | jobNotFound
  | partitionNotFound
  | moduleNotFound
  | configurationNotFound
  | deviceAlreadyExists
  | configurationAlreadyExists
  | moduleAlreadyExistsOnDevice
  | preconditionFailed
  | deviceMessageLockLost
  | messageTooLarge
  | tooManyDevices
  | tooManyModulesOnDevice
  | throttling
  | throttleBacklogLimitExceeded
  | serverError
  | serviceUnavailable
  | partitionNotFoundLegacy
  | gatewayTimeout
  /-- The service gave no code, or one that is not in the table. -/
  | unknown
deriving DecidableEq

namespace ErrorCode

/-- The codes of the table, in its order. -/
def all : List ErrorCode :=
  [.invalidProtocolVersion, .invalidOperation, .argumentInvalid, .argumentNull, .formatError,
   .deviceDefinedMultipleTimes, .deserializationError, .bulkRegistryOperationFailure, .unauthorizedAccess,
   .quotaExceeded, .deviceMaximumQueueDepthExceeded, .serviceSuspended, .deviceNotFound, .jobNotFound,
   .partitionNotFound, .moduleNotFound, .configurationNotFound, .deviceAlreadyExists,
   .configurationAlreadyExists, .moduleAlreadyExistsOnDevice, .preconditionFailed, .deviceMessageLockLost,
   .messageTooLarge, .tooManyDevices, .tooManyModulesOnDevice, .throttling, .throttleBacklogLimitExceeded,
   .serverError, .serviceUnavailable, .partitionNotFoundLegacy, .gatewayTimeout]

/-- A line of the table. -/
structure Entry where
  value : Nat
  name : String
  kind : ErrorKind
  transient : Bool

def entry : ErrorCode → Entry
  | .invalidProtocolVersion => ⟨400001, "InvalidProtocolVersion", .invalidProtocolVersion, false⟩
  | .invalidOperation => ⟨400003, "InvalidOperation", .invalidOperation, false⟩
  | .argumentInvalid => ⟨400004, "ArgumentInvalid", .argumentInvalid, false⟩
  | .argumentNull => ⟨400005, "ArgumentNull", .argumentInvalid, false⟩
  | .formatError => ⟨400006, "IotHubFormatError", .badFormat, false⟩
  | .deviceDefinedMultipleTimes => ⟨400011, "DeviceDefinedMultipleTimes", .deviceDefinedMultipleTimes, false⟩
  | .deserializationError => ⟨400012, "DeserializationError", .badFormat, false⟩
  | .bulkRegistryOperationFailure => ⟨400013, "BulkRegistryOperationFailure", .bulkRegistryOperationFailure, false⟩
  | .unauthorizedAccess => ⟨401002, "IotHubUnauthorizedAccess", .unauthorized, false⟩
  | .quotaExceeded => ⟨403002, "IotHubQuotaExceeded", .quotaExceeded, true⟩
  | .deviceMaximumQueueDepthExceeded =>
    ⟨403004, "DeviceMaximumQueueDepthExceeded", .deviceMaximumQueueDepthExceeded, false⟩
  | .serviceSuspended => ⟨403005, "IotHubSuspended", .serviceSuspended, false⟩
  | .deviceNotFound => ⟨404001, "DeviceNotFound", .deviceNotFound, false⟩
  | .jobNotFound => ⟨404002, "JobNotFound", .jobNotFound, false⟩
  | .partitionNotFound => ⟨404003, "PartitionNotFound", .unknown, false⟩
  | .moduleNotFound => ⟨404010, "ModuleNotFound", .moduleNotFound, false⟩
  | .configurationNotFound => ⟨404016, "ConfigurationNotFound", .configurationNotFound, false⟩
  | .deviceAlreadyExists => ⟨409001, "DeviceAlreadyExists", .deviceAlreadyExists, false⟩
  | .configurationAlreadyExists => ⟨409005, "ConfigurationAlreadyExists", .configurationAlreadyExists, false⟩
  | .moduleAlreadyExistsOnDevice => ⟨409301, "ModuleAlreadyExistsOnDevice", .moduleAlreadyExists, false⟩
  | .preconditionFailed => ⟨412001, "PreconditionFailed", .preconditionFailed, false⟩
  | .deviceMessageLockLost => ⟨412002, "DeviceMessageLockLost", .deviceMessageLockLost, false⟩
  | .messageTooLarge => ⟨413001, "MessageTooLarge", .messageTooLarge, false⟩
  | .tooManyDevices => ⟨413002, "TooManyDevices", .tooManyDevices, false⟩
  | .tooManyModulesOnDevice => ⟨413003, "TooManyModulesOnDevice", .tooManyModulesOnDevice, false⟩
  | .throttling => ⟨429001, "ThrottlingException", .throttling, true⟩
  | .throttleBacklogLimitExceeded => ⟨429002, "ThrottleBacklogLimitExceeded", .throttleBacklogLimitExceeded, true⟩
  | .serverError => ⟨500001, "ServerError", .serverError, true⟩
  | .serviceUnavailable => ⟨503001, "ServiceUnavailable", .serverBusy, true⟩
  | .partitionNotFoundLegacy => ⟨503003, "PartitionNotFound", .unknown, false⟩
  | .gatewayTimeout => ⟨504101, "GatewayTimeout", .gatewayTimeout, true⟩
  | .unknown => ⟨0, "InvalidErrorCode", .unknown, false⟩

def value (code : ErrorCode) : Nat := code.entry.value
def name (code : ErrorCode) : String := code.entry.name
def kind (code : ErrorCode) : ErrorKind := code.entry.kind
def isTransient (code : ErrorCode) : Bool := code.entry.transient

/-- The HTTP status that the code belongs to. -/
def status (code : ErrorCode) : Nat := code.value / 1000

def ofValue (value : Nat) : ErrorCode :=
  (all.find? fun code => code.value = value).getD .unknown

def ofName (name : String) : ErrorCode :=
  (all.find? fun code => Text.sameLetters code.name name).getD .unknown

def describe (code : ErrorCode) : String :=
  s!"{code.name} ({code.value})"

/-- A code of the table. -/
def known? (code : ErrorCode) : Option ErrorCode :=
  if code = .unknown then none else some code

end ErrorCode
end DeviceTwin.Registry
