import DeviceTwin.Registry.Identity.Authentication

/-!
The identity of a device in the registry: whether it may connect, how it authenticates, and what the service knows
about its connection.
-/
namespace DeviceTwin.Registry

inductive DeviceStatus where
  | enabled
  | disabled
deriving DecidableEq

def DeviceStatus.name : DeviceStatus → String
  | .enabled => "enabled"
  | .disabled => "disabled"

instance : Named DeviceStatus := ⟨[.enabled, .disabled], DeviceStatus.name, .enabled⟩

inductive ConnectionState where
  | disconnected
  | connected
deriving DecidableEq

def ConnectionState.name : ConnectionState → String
  | .disconnected => "Disconnected"
  | .connected => "Connected"

instance : Named ConnectionState := ⟨[.disconnected, .connected], ConnectionState.name, .disconnected⟩

structure Capabilities where
  iotEdge : Bool
deriving DecidableEq

instance : JsonForm Capabilities where
  schema := .record "DeviceCapabilities" [orDefault "iotEdge" false]
  toJson c := .obj (field "iotEdge" c.iotEdge)
  ofJson j := ⟨valueOf "iotEdge" j⟩

structure Device where
  id : String
  /-- Tells apart devices that are created one after the other with one identifier. -/
  generationId : Option String
  etag : Option String
  status : DeviceStatus
  statusReason : Option String
  statusUpdatedTime : Option String
  connectionState : ConnectionState
  connectionStateUpdatedTime : Option String
  lastActivityTime : Option String
  /-- The number of messages that wait for the device. -/
  cloudToDeviceMessageCount : UInt64
  authentication : Option Authentication
  capabilities : Option Capabilities
  /-- Set for a device that another one manages. -/
  deviceScope : Option String
deriving DecidableEq

instance : JsonForm Device where
  schema := .record "Device"
    [needed String "deviceId", possible String "generationId", possible String "etag",
     orDefault "status" DeviceStatus.enabled, possible String "statusReason", possible String "statusUpdatedTime",
     orDefault "connectionState" ConnectionState.disconnected, possible String "connectionStateUpdatedTime",
     possible String "lastActivityTime", orDefault "cloudToDeviceMessageCount" (0 : UInt64),
     possible Authentication "authentication", possible Capabilities "capabilities", possible String "deviceScope"]
  toJson d := .obj <|
    field "deviceId" d.id ++ field? "generationId" d.generationId ++ field? "etag" d.etag ++
    field "status" d.status ++ field? "statusReason" d.statusReason ++
    field? "statusUpdatedTime" d.statusUpdatedTime ++ field "connectionState" d.connectionState ++
    field? "connectionStateUpdatedTime" d.connectionStateUpdatedTime ++
    field? "lastActivityTime" d.lastActivityTime ++
    field "cloudToDeviceMessageCount" d.cloudToDeviceMessageCount ++ field? "authentication" d.authentication ++
    field? "capabilities" d.capabilities ++ field? "deviceScope" d.deviceScope
  ofJson j := {
    id := valueOf "deviceId" j
    generationId := valueOf? "generationId" j
    etag := valueOf? "etag" j
    status := valueOf "status" j
    statusReason := valueOf? "statusReason" j
    statusUpdatedTime := valueOf? "statusUpdatedTime" j
    connectionState := valueOf "connectionState" j
    connectionStateUpdatedTime := valueOf? "connectionStateUpdatedTime" j
    lastActivityTime := valueOf? "lastActivityTime" j
    cloudToDeviceMessageCount := valueOf "cloudToDeviceMessageCount" j
    authentication := valueOf? "authentication" j
    capabilities := valueOf? "capabilities" j
    deviceScope := valueOf? "deviceScope" j }

namespace Device

/-- An enabled device of which nothing is known but its identifier. -/
def new (id : String) : Device where
  id := id
  generationId := none
  etag := none
  status := .enabled
  statusReason := none
  statusUpdatedTime := none
  connectionState := .disconnected
  connectionStateUpdatedTime := none
  lastActivityTime := none
  cloudToDeviceMessageCount := 0
  authentication := none
  capabilities := none
  deviceScope := none

def withEtag (d : Device) (etag : String) : Device := { d with etag := some etag }
def withStatus (d : Device) (status : DeviceStatus) : Device := { d with status }

def withAuthentication (d : Device) (authentication : Authentication) : Device :=
  { d with authentication := some authentication }

/-- Makes it a device that manages others. -/
def edge (d : Device) : Device := { d with capabilities := some ⟨true⟩ }

end Device
end DeviceTwin.Registry
