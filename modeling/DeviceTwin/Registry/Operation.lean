import DeviceTwin.Registry.Bulk
import DeviceTwin.Registry.Configuration
import DeviceTwin.Registry.Job
import DeviceTwin.Registry.Identity.Module
import DeviceTwin.Registry.Statistics

/-!
The operations of the registry and what they ask for. An operation expects one status and, unless it only deletes,
cancels or applies something, a value in the body of the response.
-/
namespace DeviceTwin.Registry

/-- A value that an operation asks for. -/
inductive Answer where
  | nothing
  | device
  | devices
  | module
  | modules
  | configuration
  | configurations
  | bulkResult
  | job
  | jobs
  | registryStatistics
  | serviceStatistics
deriving DecidableEq

/-- The type of an answer. -/
abbrev Answer.Value : Answer → Type
  | .nothing => Unit
  | .device => Device
  | .devices => List Device
  | .module => Module
  | .modules => List Module
  | .configuration => Configuration
  | .configurations => List Configuration
  | .bulkResult => BulkResult
  | .job => Job
  | .jobs => List Job
  | .registryStatistics => RegistryStatistics
  | .serviceStatistics => ServiceStatistics

/-- Reads an answer from the body of a response. -/
def Answer.read (s : Serializer) (body : String) : (a : Answer) → Except TwinError a.Value
  | .nothing => .ok ()
  | .device => readPayload s body
  | .devices => readPayload s body
  | .module => readPayload s body
  | .modules => readPayload s body
  | .configuration => readPayload s body
  | .configurations => readPayload s body
  | .bulkResult => readPayload s body
  | .job => readPayload s body
  | .jobs => readPayload s body
  | .registryStatistics => readPayload s body
  | .serviceStatistics => readPayload s body

/-- The JSON form of an answer. -/
def Answer.toJson : (a : Answer) → a.Value → Json
  | .nothing, _ => .null
  | .device, d => Registry.toJson d
  | .devices, l => Registry.toJson l
  | .module, m => Registry.toJson m
  | .modules, l => Registry.toJson l
  | .configuration, c => Registry.toJson c
  | .configurations, l => Registry.toJson l
  | .bulkResult, r => Registry.toJson r
  | .job, j => Registry.toJson j
  | .jobs, l => Registry.toJson l
  | .registryStatistics, s => Registry.toJson s
  | .serviceStatistics, s => Registry.toJson s

inductive Operation where
  | createDevice (device : Device)
  | getDevice (id : String)
  | getDevices (maxCount : UInt32)
  | replaceDevice (device : Device) (force : Bool)
  | deleteDevice (device : Device) (force : Bool)
  | deleteDeviceById (id : String)
  | addDevices (devices : List Device)
  | updateDevices (devices : List Device) (force : Bool)
  | removeDevices (devices : List Device) (force : Bool)
  | getRegistryStatistics
  | getServiceStatistics
  | createModule (module : Module)
  | getModule (deviceId id : String)
  | getModulesOnDevice (deviceId : String)
  | replaceModule (module : Module) (force : Bool)
  | deleteModule (module : Module) (force : Bool)
  | createConfiguration (configuration : Configuration)
  | getConfiguration (id : String)
  | getConfigurations (maxCount : UInt32)
  | replaceConfiguration (configuration : Configuration) (force : Bool)
  | deleteConfiguration (configuration : Configuration) (force : Bool)
  | applyConfiguration (deviceId : String) (content : ConfigurationContent)
  | exportDevices (output : String) (excludesKeys : Bool)
  | importDevices (input output : String)
  | createJob (job : Job)
  | getJob (id : String)
  | getJobs
  | cancelJob (id : String)

namespace Operation

/-- The value that the operation asks for. -/
def answer : Operation → Answer
  | .createDevice _ => .device
  | .getDevice _ => .device
  | .getDevices _ => .devices
  | .replaceDevice _ _ => .device
  | .deleteDevice _ _ => .nothing
  | .deleteDeviceById _ => .nothing
  | .addDevices _ => .bulkResult
  | .updateDevices _ _ => .bulkResult
  | .removeDevices _ _ => .bulkResult
  | .getRegistryStatistics => .registryStatistics
  | .getServiceStatistics => .serviceStatistics
  | .createModule _ => .module
  | .getModule _ _ => .module
  | .getModulesOnDevice _ => .modules
  | .replaceModule _ _ => .module
  | .deleteModule _ _ => .nothing
  | .createConfiguration _ => .configuration
  | .getConfiguration _ => .configuration
  | .getConfigurations _ => .configurations
  | .replaceConfiguration _ _ => .configuration
  | .deleteConfiguration _ _ => .nothing
  | .applyConfiguration _ _ => .nothing
  | .exportDevices _ _ => .job
  | .importDevices _ _ => .job
  | .createJob _ => .job
  | .getJob _ => .job
  | .getJobs => .jobs
  | .cancelJob _ => .nothing

/-- The only status that means success. -/
def expectedStatus : Operation → Nat
  | .deleteDevice _ _ => 204
  | .deleteDeviceById _ => 204
  | .deleteModule _ _ => 204
  | .deleteConfiguration _ _ => 204
  | .applyConfiguration _ _ => 204
  | _ => 200

end Operation
end DeviceTwin.Registry
