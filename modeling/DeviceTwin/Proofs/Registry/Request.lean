import DeviceTwin.Proofs.Registry.Checks
import DeviceTwin.Proofs.Registry.Form

/-!
The request of an operation. What an operation is about decides its path (`Target`), and whether it may be asked for is
decided by its arguments alone (`Operation.Allowed`). An allowed operation whose content can be written is one request,
all parts of which are known (`Client.isRequest_of_prepare`); any other operation is refused (`Client.prepare_refused`).
-/
namespace DeviceTwin.Registry
open Http

/-- What an operation is about: an entity, a collection of them, or a figure of the service. -/
inductive Target where
  | device (id : String)
  | devices
  | module (deviceId id : String)
  | modules (deviceId : String)
  | configuration (id : String)
  | configurations
  | appliedContent (deviceId : String)
  | job (id : String)
  | jobs
  | newJob
  | registryStatistics
  | serviceStatistics
deriving DecidableEq

namespace Target

/-- The segments of the path. -/
def path : Target → List String
  | .device id => ["devices", id]
  | .devices => ["devices"]
  | .module deviceId id => ["devices", deviceId, "modules", id]
  | .modules deviceId => ["devices", deviceId, "modules"]
  | .configuration id => ["configurations", id]
  | .configurations => ["configurations"]
  | .appliedContent deviceId => ["devices", deviceId, "applyConfigurationContent"]
  | .job id => ["jobs", id]
  | .jobs => ["jobs"]
  | .newJob => ["jobs", "create"]
  | .registryStatistics => ["statistics", "devices"]
  | .serviceStatistics => ["statistics", "service"]

/-- The identifiers that are given by the caller. -/
def identifiers : Target → List String
  | .device id => [id]
  | .module deviceId id => [deviceId, id]
  | .modules deviceId => [deviceId]
  | .configuration id => [id]
  | .appliedContent deviceId => [deviceId]
  | .job id => [id]
  | _ => []

end Target

namespace Operation

def target : Operation → Target
  | .createDevice d => .device d.id
  | .getDevice id => .device id
  | .getDevices _ => .devices
  | .replaceDevice d _ => .device d.id
  | .deleteDevice d _ => .device d.id
  | .deleteDeviceById id => .device id
  | .addDevices _ => .devices
  | .updateDevices _ _ => .devices
  | .removeDevices _ _ => .devices
  | .getRegistryStatistics => .registryStatistics
  | .getServiceStatistics => .serviceStatistics
  | .createModule m => .module m.deviceId m.id
  | .getModule deviceId id => .module deviceId id
  | .getModulesOnDevice deviceId => .modules deviceId
  | .replaceModule m _ => .module m.deviceId m.id
  | .deleteModule m _ => .module m.deviceId m.id
  | .createConfiguration configuration => .configuration configuration.id
  | .getConfiguration id => .configuration id
  | .getConfigurations _ => .configurations
  | .replaceConfiguration configuration _ => .configuration configuration.id
  | .deleteConfiguration configuration _ => .configuration configuration.id
  | .applyConfiguration deviceId _ => .appliedContent deviceId
  | .exportDevices _ _ => .newJob
  | .importDevices _ _ => .newJob
  | .createJob _ => .newJob
  | .getJob id => .job id
  | .getJobs => .jobs
  | .cancelJob id => .job id

def method : Operation → Method
  | .createDevice _ => .put
  | .replaceDevice _ _ => .put
  | .deleteDevice _ _ => .delete
  | .deleteDeviceById _ => .delete
  | .addDevices _ => .post
  | .updateDevices _ _ => .post
  | .removeDevices _ _ => .post
  | .createModule _ => .put
  | .replaceModule _ _ => .put
  | .deleteModule _ _ => .delete
  | .createConfiguration _ => .put
  | .replaceConfiguration _ _ => .put
  | .deleteConfiguration _ _ => .delete
  | .applyConfiguration _ _ => .post
  | .exportDevices _ _ => .post
  | .importDevices _ _ => .post
  | .createJob _ => .post
  | .cancelJob _ => .delete
  | _ => .get

/-- How many entities are asked for. -/
def limit : Operation → Option UInt32
  | .getDevices maxCount => some maxCount
  | .getConfigurations maxCount => some maxCount
  | _ => none

/-- The tag that the entity must have. -/
def matched : Operation → Option String
  | .replaceDevice d force => some (matchedTag d.etag force)
  | .deleteDevice d force => some (matchedTag d.etag force)
  | .deleteDeviceById _ => some wildcardTag
  | .replaceModule m force => some (matchedTag m.etag force)
  | .deleteModule m force => some (matchedTag m.etag force)
  | .replaceConfiguration configuration force => some (matchedTag configuration.etag force)
  | .deleteConfiguration configuration force => some (matchedTag configuration.etag force)
  | _ => none

/-- What is done with the devices of a bulk operation. -/
def bulk? : Operation → Option (ImportMode × List Device)
  | .addDevices devices => some (.create, devices)
  | .updateDevices devices force => some (if force then .update else .updateIfMatchTag, devices)
  | .removeDevices devices force => some (if force then .delete else .deleteIfMatchTag, devices)
  | _ => none

/-- The value in the body. -/
def content : Operation → Option Json
  | .createDevice d => some (toJson d)
  | .replaceDevice d _ => some (toJson d)
  | .createModule m => some (toJson m)
  | .replaceModule m _ => some (toJson m)
  | .createConfiguration configuration => some (toJson configuration)
  | .replaceConfiguration configuration _ => some (toJson configuration)
  | .applyConfiguration _ content => some (toJson content)
  | .exportDevices output excludesKeys => some (toJson (Job.ofExport output excludesKeys))
  | .importDevices input output => some (toJson (Job.ofImport input output))
  | .createJob job => some (toJson job)
  | o => o.bulk?.map fun bulk => toJson (bulk.2.map (BulkEntry.ofDevice bulk.1))

/-- The arguments pass all checks. -/
def Allowed : Operation → Prop
  | .createDevice d => IsIdentifier d.id ∧ d.etag = none
  | .getDevice id => IsIdentifier id
  | .replaceDevice d force => IsIdentifier d.id ∧ (force = true ∨ hasTag d.etag = true)
  | .deleteDevice d force => IsIdentifier d.id ∧ (force = true ∨ hasTag d.etag = true)
  | .deleteDeviceById id => IsIdentifier id
  | .addDevices devices => IsBatch .create devices
  | .updateDevices devices force => IsBatch (if force then .update else .updateIfMatchTag) devices
  | .removeDevices devices force => IsBatch (if force then .delete else .deleteIfMatchTag) devices
  | .createModule m => (IsIdentifier m.deviceId ∧ IsIdentifier m.id) ∧ m.etag = none
  | .getModule deviceId id => IsIdentifier deviceId ∧ IsIdentifier id
  | .getModulesOnDevice deviceId => IsIdentifier deviceId
  | .replaceModule m force => (IsIdentifier m.deviceId ∧ IsIdentifier m.id) ∧ (force = true ∨ hasTag m.etag = true)
  | .deleteModule m force => (IsIdentifier m.deviceId ∧ IsIdentifier m.id) ∧ (force = true ∨ hasTag m.etag = true)
  | .createConfiguration configuration => IsIdentifier configuration.id ∧ configuration.etag = none
  | .getConfiguration id => IsIdentifier id
  | .replaceConfiguration configuration force =>
    IsIdentifier configuration.id ∧ (force = true ∨ hasTag configuration.etag = true)
  | .deleteConfiguration configuration force =>
    IsIdentifier configuration.id ∧ (force = true ∨ hasTag configuration.etag = true)
  | .applyConfiguration deviceId _ => IsIdentifier deviceId
  | .getJob id => IsIdentifier id
  | .cancelJob id => IsIdentifier id
  | _ => True

end Operation

namespace Client

/-- The request of an operation without its body. -/
def bare (c : Client) (o : Operation) : Request where
  method := o.method
  segments := o.target.path
  query := ("api-version", c.apiVersion) :: o.limit.toList.map fun n => ("top", toString n)
  headers := o.matched.toList.map fun tag => ("If-Match", tag)
  body := none

/-- Adds the content of a request, if there is any. -/
def addContent (c : Client) (r : Request) : Option Json → Except RegistryError Request
  | none => .ok r
  | some j => c.withBody r j

theorem guards_checkModule (m : Module) :
    Guards (IsIdentifier m.deviceId ∧ IsIdentifier m.id) (checkModule m) (.ok ()) :=
  (guards_checkId .device m.deviceId).bind (guards_checkId .module m.id)

theorem guards_bulkRequest (c : Client) (mode : ImportMode) (devices : List Device) :
    Guards (IsBatch mode devices) (c.bulkRequest mode devices)
      (c.withBody (c.request .post ["devices"]) (toJson (devices.map (BulkEntry.ofDevice mode)))) :=
  (guards_batch mode devices).last rfl

/-- An operation is checked as a whole before its content is written. -/
theorem guards_prepare (c : Client) (o : Operation) :
    Guards o.Allowed (c.prepare o) (c.addContent (c.bare o) o.content) := by
  cases o with
  | createDevice d => exact (guards_checkId _ _).bind ((guards_checkNew _ _).last rfl)
  | getDevice id => exact (guards_checkId _ _).last rfl
  | replaceDevice d force => exact (guards_checkId _ _).bind ((guards_matchTag _ _ _).last rfl)
  | deleteDevice d force => exact (guards_checkId _ _).bind ((guards_matchTag _ _ _).last rfl)
  | deleteDeviceById id => exact (guards_checkId _ _).last rfl
  | addDevices devices => exact guards_bulkRequest c _ devices
  | updateDevices devices force => exact guards_bulkRequest c _ devices
  | removeDevices devices force => exact guards_bulkRequest c _ devices
  | createModule m => exact (guards_checkModule m).bind ((guards_checkNew _ _).last rfl)
  | getModule deviceId id => exact (guards_checkId _ _).bind ((guards_checkId _ _).last rfl)
  | getModulesOnDevice deviceId => exact (guards_checkId _ _).last rfl
  | replaceModule m force => exact (guards_checkModule m).bind ((guards_matchTag _ _ _).last rfl)
  | deleteModule m force => exact (guards_checkModule m).bind ((guards_matchTag _ _ _).last rfl)
  | createConfiguration configuration => exact (guards_checkId _ _).bind ((guards_checkNew _ _).last rfl)
  | getConfiguration id => exact (guards_checkId _ _).last rfl
  | replaceConfiguration configuration force => exact (guards_checkId _ _).bind ((guards_matchTag _ _ _).last rfl)
  | deleteConfiguration configuration force => exact (guards_checkId _ _).bind ((guards_matchTag _ _ _).last rfl)
  | applyConfiguration deviceId content => exact (guards_checkId _ _).last rfl
  | getJob id => exact (guards_checkId _ _).last rfl
  | cancelJob id => exact (guards_checkId _ _).last rfl
  | getDevices | getRegistryStatistics | getServiceStatistics | getConfigurations | exportDevices | importDevices
  | createJob | getJobs => exact ⟨fun _ => rfl, fun violated => absurd trivial violated⟩

/-! ### Content -/

section Content
variable {c : Client} {o : Operation} {r : Request} {j : Json} {payload : String}

theorem withBody_of_serialize (written : c.serializer.serialize (.value j) = .ok payload) (r : Request) :
    c.withBody r j = .ok ((r.withHeader "Content-Type" c.bodyType).withBody payload) := by
  have payload_ : writePayload c.serializer j = .ok payload := written
  simp only [withBody, payload_]

/-- A value that cannot be written is refused like any other argument. -/
theorem refused_withBody (unwritten : ∀ payload, c.serializer.serialize (.value j) ≠ .ok payload) (r : Request) :
    Refused (c.withBody r j) := by
  cases prepared : c.serializer.prepare (.value j) with
  | ok k => exact absurd (by rw [Serializer.serialize, prepared]) (unwritten k.print)
  | error e =>
    have refused : writePayload c.serializer j = .error (.unwritable e) := by
      rw [writePayload, Serializer.serialize, show toJson j = j from rfl, prepared]
    refine ⟨.twin (.unwritable e), ?_, rfl, rfl⟩
    simp only [withBody, refused]

/-- Whether an operation is sent: its arguments pass all checks, and its content can be written. -/
structure Accepts (c : Client) (o : Operation) : Prop where
  allowed : o.Allowed
  writable : ∀ j, o.content = some j → ∃ payload, c.serializer.serialize (.value j) = .ok payload

/-- All parts of the request of an operation but the method. -/
structure IsRequest (c : Client) (o : Operation) (r : Request) : Prop where
  accepted : c.Accepts o
  segments : r.segments = o.target.path
  query : r.query = ("api-version", c.apiVersion) :: o.limit.toList.map fun n => ("top", toString n)
  headers : r.headers = (o.matched.toList.map fun tag => ("If-Match", tag)) ++
    o.content.toList.map fun _ => ("Content-Type", c.bodyType)
  body : ∀ j, o.content = some j →
    ∃ payload, c.serializer.serialize (.value j) = .ok payload ∧ r.body = some payload

theorem prepare_refused (rejected : ¬ c.Accepts o) : Refused (c.prepare o) := by
  by_cases allowed : o.Allowed
  · rw [(guards_prepare c o).of_holds allowed]
    cases content : o.content with
    | none => exact absurd ⟨allowed, by simp [content]⟩ rejected
    | some j =>
      refine refused_withBody (fun payload written => rejected ⟨allowed, fun j' content' => ?_⟩) _
      rw [content] at content'
      cases content'
      exact ⟨payload, written⟩
  · exact (guards_prepare c o).of_not allowed

theorem exists_prepare (accepted : c.Accepts o) : ∃ r, c.prepare o = .ok r ∧ c.IsRequest o r := by
  rw [(guards_prepare c o).of_holds accepted.allowed]
  cases content : o.content with
  | none =>
    refine ⟨c.bare o, rfl, accepted, rfl, rfl, ?_, fun j content' => ?_⟩
    · rw [content]
      exact (List.append_nil _).symm
    · rw [content] at content'
      cases content'
  | some j =>
    obtain ⟨payload, written⟩ := accepted.writable j content
    refine ⟨_, withBody_of_serialize written _, accepted, rfl, rfl, ?_, fun j' content' => ?_⟩
    · rw [content]
      rfl
    · rw [content] at content'
      cases content'
      exact ⟨payload, written, rfl⟩

/-- What is prepared is the request of an operation that is accepted. -/
theorem isRequest_of_prepare (prepared : c.prepare o = .ok r) : c.IsRequest o r := by
  by_cases accepted : c.Accepts o
  · obtain ⟨r', prepared', request⟩ := exists_prepare accepted
    rw [prepared] at prepared'
    cases prepared'
    exact request
  · obtain ⟨e, refused, _⟩ := prepare_refused accepted
    rw [prepared] at refused
    cases refused

end Content
end Client

/-- The values in the arguments that come from elsewhere. -/
def Operation.documents : Operation → List Json
  | .createConfiguration configuration => configuration.content.documents
  | .replaceConfiguration configuration _ => configuration.content.documents
  | .applyConfiguration _ content => content.documents
  | _ => []

/-- The content of an operation can be written if those values can. -/
theorem Operation.writable_content {o : Operation} {j : Json} (documents : ∀ j ∈ o.documents, Writable j)
    (content : o.content = some j) : Writable j := by
  cases o with
  | createConfiguration configuration =>
    cases content
    exact configuration.writable documents
  | replaceConfiguration configuration _ =>
    cases content
    exact configuration.writable documents
  | applyConfiguration _ applied =>
    cases content
    exact applied.writable documents
  | createDevice | replaceDevice | createModule | replaceModule | exportDevices | importDevices | createJob |
    addDevices | updateDevices | removeDevices =>
    cases content
    exact .plain _
  | _ => cases content

/-- A client accepts an operation whose arguments pass the checks. -/
theorem Client.accepts_of_allowed (c : Client) {o : Operation} (documents : ∀ j ∈ o.documents, Writable j)
    (allowed : o.Allowed) : c.Accepts o :=
  ⟨allowed, fun _ content => (o.writable_content documents content).serialize c.serializer⟩

end DeviceTwin.Registry
