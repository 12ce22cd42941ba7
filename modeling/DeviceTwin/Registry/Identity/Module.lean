import DeviceTwin.Registry.Identity.Device

/-!
The identity of a module, which is hosted by a device.
-/
namespace DeviceTwin.Registry

structure Module where
  /-- The device that hosts the module. -/
  deviceId : String
  id : String
  managedBy : Option String
  /-- Tells apart modules that are created one after the other with one identifier. -/
  generationId : Option String
  etag : Option String
  connectionState : ConnectionState
  connectionStateUpdatedTime : Option String
  lastActivityTime : Option String
  /-- The number of messages that wait for the module. -/
  cloudToDeviceMessageCount : UInt64
  authentication : Option Authentication
deriving DecidableEq

instance : JsonForm Module where
  schema := .record "Module"
    [needed String "deviceId", needed String "moduleId", possible String "managedBy",
     possible String "generationId", possible String "etag",
     orDefault "connectionState" ConnectionState.disconnected, possible String "connectionStateUpdatedTime",
     possible String "lastActivityTime", orDefault "cloudToDeviceMessageCount" (0 : UInt64),
     possible Authentication "authentication"]
  toJson m := .obj <|
    field "deviceId" m.deviceId ++ field "moduleId" m.id ++ field? "managedBy" m.managedBy ++
    field? "generationId" m.generationId ++ field? "etag" m.etag ++ field "connectionState" m.connectionState ++
    field? "connectionStateUpdatedTime" m.connectionStateUpdatedTime ++
    field? "lastActivityTime" m.lastActivityTime ++
    field "cloudToDeviceMessageCount" m.cloudToDeviceMessageCount ++ field? "authentication" m.authentication
  ofJson j := {
    deviceId := valueOf "deviceId" j
    id := valueOf "moduleId" j
    managedBy := valueOf? "managedBy" j
    generationId := valueOf? "generationId" j
    etag := valueOf? "etag" j
    connectionState := valueOf "connectionState" j
    connectionStateUpdatedTime := valueOf? "connectionStateUpdatedTime" j
    lastActivityTime := valueOf? "lastActivityTime" j
    cloudToDeviceMessageCount := valueOf "cloudToDeviceMessageCount" j
    authentication := valueOf? "authentication" j }

namespace Module

def new (deviceId id : String) : Module where
  deviceId := deviceId
  id := id
  managedBy := none
  generationId := none
  etag := none
  connectionState := .disconnected
  connectionStateUpdatedTime := none
  lastActivityTime := none
  cloudToDeviceMessageCount := 0
  authentication := none

def withEtag (m : Module) (etag : String) : Module := { m with etag := some etag }
def withManager (m : Module) (manager : String) : Module := { m with managedBy := some manager }

end Module
end DeviceTwin.Registry
