import DeviceTwin.Registry.JsonForm

/-!
How many devices the registry has and how many of them are connected.
-/
namespace DeviceTwin.Registry

structure RegistryStatistics where
  totalDeviceCount : UInt64
  enabledDeviceCount : UInt64
  disabledDeviceCount : UInt64
deriving DecidableEq

instance : JsonForm RegistryStatistics where
  schema := .record "RegistryStatistics"
    [needed UInt64 "totalDeviceCount", needed UInt64 "enabledDeviceCount", needed UInt64 "disabledDeviceCount"]
  toJson s := .obj <|
    field "totalDeviceCount" s.totalDeviceCount ++ field "enabledDeviceCount" s.enabledDeviceCount ++
    field "disabledDeviceCount" s.disabledDeviceCount
  ofJson j := ⟨valueOf "totalDeviceCount" j, valueOf "enabledDeviceCount" j, valueOf "disabledDeviceCount" j⟩

structure ServiceStatistics where
  connectedDeviceCount : UInt64
deriving DecidableEq

instance : JsonForm ServiceStatistics where
  schema := .record "ServiceStatistics" [needed UInt64 "connectedDeviceCount"]
  toJson s := .obj (field "connectedDeviceCount" s.connectedDeviceCount)
  ofJson j := ⟨valueOf "connectedDeviceCount" j⟩

end DeviceTwin.Registry
