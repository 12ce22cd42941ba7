import DeviceTwin.Http.Message
import DeviceTwin.Registry.Access.Settings
import DeviceTwin.Registry.Failure.Body
import DeviceTwin.Registry.Operation

/-!
Running an operation against a transport. An operation is checked, and then it is one request: a method, a path,
perhaps the tag that the entity must still have, and perhaps a body. The request is sent once, and the response alone
decides the result: any status but the expected one is an error of the service.
-/
namespace DeviceTwin.Registry
open Http

/-- The tag that matches every version of an entity. -/
def wildcardTag : String := "*"

/-- A tag between double quotes, which are not doubled. -/
def quotedTag (tag : List Char) : List Char :=
  if tag.head? = some '"' ∧ tag.getLast? = some '"' ∧ 1 < tag.length then tag else '"' :: tag ++ ['"']

/-- The condition under which an entity is replaced or deleted: any version if it is forced, and otherwise the version
    that has its tag. -/
def matchTag (subject : Subject) (etag : Option String) (force : Bool) : Except RegistryError String :=
  if force then .ok wildcardTag
  else match etag.bind fun tag => Text.nonBlank? tag.toList with
    | some tag => .ok (String.ofList (quotedTag tag))
    | none => .error (.withoutTag subject)

/-- An entity that is to be created has no tag yet. -/
def checkNew (subject : Subject) (etag : Option String) : Except RegistryError Unit :=
  if etag.isSome then .error (.tagOnCreation subject) else .ok ()

/-- What a client adds to every request: the serializer of bodies, and the version of the service's interface. -/
structure Client where
  serializer : Serializer
  apiVersion : String

namespace Client

def new : Client := ⟨.compact, defaultApiVersion⟩

def request (c : Client) (method : Method) (segments : List String) : Request :=
  (Request.new method segments).withQuery "api-version" c.apiVersion

def bodyType (c : Client) : String :=
  s!"{c.serializer.contentType}; charset={c.serializer.contentEncoding}"

/-- Adds a value as the body of a request. -/
def withBody {α : Type} [JsonForm α] (c : Client) (r : Request) (body : α) : Except RegistryError Request :=
  match writePayload c.serializer body with
  | .ok payload => .ok ((r.withHeader "Content-Type" c.bodyType).withBody payload)
  | .error e => .error (.twin e)

/-- Adds the condition that an entity still has its tag. -/
def withTag (r : Request) (tag : String) : Request :=
  r.withHeader "If-Match" tag

def devicePath (id : String) : List String := ["devices", id]
def modulePath (deviceId id : String) : List String := ["devices", deviceId, "modules", id]
def configurationPath (id : String) : List String := ["configurations", id]

/-- The request of a batch of devices. -/
def bulkRequest (c : Client) (mode : ImportMode) (devices : List Device) : Except RegistryError Request := do
  c.withBody (c.request .post ["devices"]) (← batch mode devices)

/-- The request of a job. -/
def jobRequest (c : Client) (job : Job) : Except RegistryError Request :=
  c.withBody (c.request .post ["jobs", "create"]) job

def checkModule (m : Module) : Except RegistryError Unit := do
  checkId .device m.deviceId
  checkId .module m.id

/-- The request of an operation, unless its arguments are refused. -/
def prepare (c : Client) : Operation → Except RegistryError Request
  | .createDevice d => do
    checkId .device d.id
    checkNew .device d.etag
    c.withBody (c.request .put (devicePath d.id)) d
  | .getDevice id => do
    checkId .device id
    pure (c.request .get (devicePath id))
  | .getDevices maxCount => pure ((c.request .get ["devices"]).withQuery "top" (toString maxCount))
  | .replaceDevice d force => do
    checkId .device d.id
    let tag ← matchTag .device d.etag force
    c.withBody (withTag (c.request .put (devicePath d.id)) tag) d
  | .deleteDevice d force => do
    checkId .device d.id
    let tag ← matchTag .device d.etag force
    pure (withTag (c.request .delete (devicePath d.id)) tag)
  | .deleteDeviceById id => do
    checkId .device id
    pure (withTag (c.request .delete (devicePath id)) wildcardTag)
  | .addDevices devices => c.bulkRequest .create devices
  | .updateDevices devices force => c.bulkRequest (if force then .update else .updateIfMatchTag) devices
  | .removeDevices devices force => c.bulkRequest (if force then .delete else .deleteIfMatchTag) devices
  | .getRegistryStatistics => pure (c.request .get ["statistics", "devices"])
  | .getServiceStatistics => pure (c.request .get ["statistics", "service"])
  | .createModule m => do
    checkModule m
    checkNew .module m.etag
    c.withBody (c.request .put (modulePath m.deviceId m.id)) m
  | .getModule deviceId id => do
    checkId .device deviceId
    checkId .module id
    pure (c.request .get (modulePath deviceId id))
  | .getModulesOnDevice deviceId => do
    checkId .device deviceId
    pure (c.request .get ["devices", deviceId, "modules"])
  | .replaceModule m force => do
    checkModule m
    let tag ← matchTag .module m.etag force
    c.withBody (withTag (c.request .put (modulePath m.deviceId m.id)) tag) m
  | .deleteModule m force => do
    checkModule m
    let tag ← matchTag .module m.etag force
    pure (withTag (c.request .delete (modulePath m.deviceId m.id)) tag)
  | .createConfiguration configuration => do
    checkId .configuration configuration.id
    checkNew .configuration configuration.etag
    c.withBody (c.request .put (configurationPath configuration.id)) configuration
  | .getConfiguration id => do
    checkId .configuration id
    pure (c.request .get (configurationPath id))
  | .getConfigurations maxCount => pure ((c.request .get ["configurations"]).withQuery "top" (toString maxCount))
  | .replaceConfiguration configuration force => do
    checkId .configuration configuration.id
    let tag ← matchTag .configuration configuration.etag force
    c.withBody (withTag (c.request .put (configurationPath configuration.id)) tag) configuration
  | .deleteConfiguration configuration force => do
    checkId .configuration configuration.id
    let tag ← matchTag .configuration configuration.etag force
    pure (withTag (c.request .delete (configurationPath configuration.id)) tag)
  | .applyConfiguration deviceId content => do
    checkId .device deviceId
    c.withBody (c.request .post ["devices", deviceId, "applyConfigurationContent"]) content
  | .exportDevices output excludesKeys => c.jobRequest (.ofExport output excludesKeys)
  | .importDevices input output => c.jobRequest (.ofImport input output)
  | .createJob job => c.jobRequest job
  | .getJob id => do
    checkId .job id
    pure (c.request .get ["jobs", id])
  | .getJobs => pure (c.request .get ["jobs"])
  | .cancelJob id => do
    checkId .job id
    pure (c.request .delete ["jobs", id])

end Client

/-- How requests get to the service, with effects `m`. -/
abbrev Transport (m : Type → Type) : Type := Request → m (Except RegistryError Response)

/-- The response, if it has the expected status. -/
def checkStatus (expected : Nat) (r : Response) : Except RegistryError Response :=
  if r.status = expected then .ok r else .error (classifyResponse r)

/-- The answer in the body of a response. -/
def readAnswer (s : Serializer) (a : Answer) (r : Response) : Except RegistryError a.Value :=
  match a with
  | .nothing => .ok ()
  | a =>
    match Text.ofUtf8 r.body with
    | .error e => .error (.bodyNotText e)
    | .ok body => (a.read s body).mapError .unreadableBody

/-- What a response means for an operation. -/
def conclude (c : Client) (o : Operation) (r : Response) : Except RegistryError o.answer.Value := do
  readAnswer c.serializer o.answer (← checkStatus o.expectedStatus r)

/-- Runs an operation. -/
def Client.run {m : Type → Type} [Monad m] (c : Client) (send : Transport m) (o : Operation) :
    m (Except RegistryError o.answer.Value) :=
  match c.prepare o with
  | .error e => pure (.error e)
  | .ok request => do
    match ← send request with
    | .error e => pure (.error e)
    | .ok response => pure (conclude c o response)

end DeviceTwin.Registry
