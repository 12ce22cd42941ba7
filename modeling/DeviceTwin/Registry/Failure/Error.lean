import DeviceTwin.Encoding.Base64
import DeviceTwin.Registry.Failure.Code
import DeviceTwin.TwinError
import DeviceTwin.Text.Utf8
import DeviceTwin.Url.Error

/-!
What can go wrong with the registry. Most errors are found before a request is sent, some are failures of the exchange,
and the rest is what the service answered. An error is its cause; kind, code, wording and whether it is worth a retry
follow from the cause.
-/
namespace DeviceTwin.Registry

/-- What an operation is about. -/
inductive Subject where
  | device
  | module
  | configuration
  | job
deriving DecidableEq

def Subject.name : Subject → String
  | .device => "device"
  | .module => "module"
  | .configuration => "configuration"
  | .job => "job"

/-- The largest number of devices in one bulk request. -/
def maxBulkDevices : Nat := 100

/-- Why no response was had. -/
inductive ExchangeFailure where
  /-- The request could not even be made for an address, which is shown if it is known. -/
  | notMade (address : Option String)
  /-- The request could not be sent to an address, or the answer to it did not begin. -/
  | notSent (address : String)
  | timedOut (address : String)
  /-- The answer broke off. -/
  | brokenOff

/-- What the service said in a failed response. -/
structure ServiceFailure where
  kind : ErrorKind
  code : ErrorCode
  message : String
  transient : Bool
  trackingId : Option String

inductive RegistryError where
  | twin (cause : TwinError)
  | emptyIdentifier (subject : Subject)
  | tagOnCreation (subject : Subject)
  | withoutTag (subject : Subject)
  | batchSize (found : Nat)
  | repeatedDevice (id : String)
  | deviceWithoutTag (id : String)
  | malformedSetting (segment : String)
  | missingSetting (key : String)
  | unreadableKey (cause : Base64.ReadError)
  | invalidAddress (address : String) (cause : Url.ParseError)
  | addressWithoutPath (address : String)
  | failedExchange (failure : ExchangeFailure)
  | bodyNotText (cause : Text.Utf8Error)
  | unreadableBody (cause : TwinError)
  | service (failure : ServiceFailure)
  /-- An error of the application or of its transport. -/
  | stated (kind : ErrorKind) (message : String) (trackingId : Option String)

def ExchangeFailure.message : ExchangeFailure → String
  | .notMade none => "Unable to reach the service: builder error"
  | .notMade (some address) => s!"Unable to reach the service: builder error for url ({address})"
  | .notSent address => s!"Unable to reach the service: error sending request for url ({address})"
  | .timedOut address => s!"Request timed out: error sending request for url ({address})"
  | .brokenOff => "Unable to reach the service: error decoding response body"

namespace RegistryError

def kind : RegistryError → ErrorKind
  | .twin cause => if cause.kind = .deserialization then .responseDeserialization else .argumentInvalid
  | .failedExchange _ => .communication
  | .bodyNotText _ => .responseDeserialization
  | .unreadableBody _ => .responseDeserialization
  | .service failure => failure.kind
  | .stated kind _ _ => kind
  | _ => .argumentInvalid

def code : RegistryError → ErrorCode
  | .service failure => failure.code
  | _ => .unknown

def message : RegistryError → String
  | .twin cause => cause.display
  | .emptyIdentifier subject => s!"The {subject.name} identifier must not be empty"
  | .tagOnCreation subject => s!"A {subject.name} to be created must not carry an ETag"
  | .withoutTag subject => s!"The {subject.name} has no ETag, set it or force the operation"
  | .batchSize found => s!"A bulk request needs between 1 and {maxBulkDevices} devices, found {found}"
  | .repeatedDevice id => s!"Device `{id}` appears more than once"
  | .deviceWithoutTag id => s!"Device `{id}` has no ETag, set it or force the operation"
  | .malformedSetting segment => s!"Malformed connection string segment `{segment}`"
  | .missingSetting key => s!"Connection string without `{key}`"
  | .unreadableKey cause => "Shared access key is not valid base64: " ++ cause.message
  | .invalidAddress address cause => s!"Invalid registry address `{address}`: {cause.message}"
  | .addressWithoutPath address => s!"`{address}` cannot be a base address"
  | .failedExchange failure => failure.message
  | .bodyNotText cause => "Response body is not valid UTF-8: " ++ cause.message
  | .unreadableBody cause => "Unable to deserialize the response body: " ++ cause.display
  | .service failure => failure.message
  | .stated _ message _ => message

/-- The same request may succeed later. -/
def isTransient (e : RegistryError) : Bool :=
  match e with
  | .service failure => failure.transient
  | e => e.kind.isTransient

/-- The identifier under which the service keeps the failed request. -/
def trackingId : RegistryError → Option String
  | .service failure => failure.trackingId
  | .stated _ _ trackingId => trackingId
  | _ => none

/-- The error in full. -/
def display (e : RegistryError) : String :=
  e.kind.title ++ (if e.code = .unknown then "" else s!" ({e.code.value})") ++ ": " ++ e.message ++
    (match e.trackingId with
      | some id => s!" [tracking id: {id}]"
      | none => "")

end RegistryError
end DeviceTwin.Registry
