import DeviceTwin.Json.ReadError
import DeviceTwin.Property.Status

/-!
What can go wrong between payloads, patches and exchanges. An error is its cause; its kind and its wording follow from
the cause.
-/
namespace DeviceTwin

/-- Why a value cannot be written. -/
inductive WriteError where
  /-- The value has no JSON form at all. That it has a key which is no text stands for whatever keeps it from having
      one. -/
  | keyNotText
  | numberOutOfRange

def WriteError.message : WriteError → String
  | .keyNotText => "key must be a string"
  | .numberOutOfRange => "number out of range"

/-- A step of an exchange. -/
inductive ExchangeAction where
  | acknowledge (version : Int64)
  | complete
  | reject (version : Int64)

def ExchangeAction.describe : ExchangeAction → String
  | .acknowledge version => "acknowledge version " ++ writeVersion version ++ " of"
  | .complete => "complete"
  | .reject version => "reject version " ++ writeVersion version ++ " of"

inductive TwinError.Kind where
  | serialization
  | deserialization
  | invalidPatch
  | invalidTransition
  | invalidArgument
deriving DecidableEq

def TwinError.Kind.title : TwinError.Kind → String
  | .serialization => "Serialization"
  | .deserialization => "Deserialization"
  | .invalidPatch => "Invalid Patch"
  | .invalidTransition => "Invalid Transition"
  | .invalidArgument => "Invalid Argument"

/-- The reserved key that marks the properties of a component. -/
def markerKey : String := "__t"

inductive TwinError where
  | unwritable (cause : WriteError)
  | unreadable (cause : Json.ReadError)
  | patchNotObject
  | desiredWithoutVersion
  | twinWithoutDesired
  | emptyName
  | reservedName
  | envelopeNotObject
  | envelopeWithout (key : String)
  | envelopeInvalid (key : String)
  | unknownCode (status : Nat)
  | refusedAction (action : ExchangeAction) (property : String) (state : ExchangeState)
  | openCode (code : AckCode) (property : String)
  /-- An error of the application. -/
  | stated (kind : TwinError.Kind) (description : String)

namespace TwinError

def kind : TwinError → Kind
  | .unwritable _ => .serialization
  | .unreadable _ => .deserialization
  | .patchNotObject => .invalidPatch
  | .desiredWithoutVersion => .invalidPatch
  | .twinWithoutDesired => .invalidPatch
  | .emptyName => .invalidArgument
  | .reservedName => .invalidArgument
  | .envelopeNotObject => .deserialization
  | .envelopeWithout _ => .deserialization
  | .envelopeInvalid _ => .deserialization
  | .unknownCode _ => .deserialization
  | .refusedAction _ _ _ => .invalidTransition
  | .openCode _ _ => .invalidTransition
  | .stated kind _ => kind

def description : TwinError → String
  | .unwritable cause => "Unable to serialize value: " ++ cause.message
  | .unreadable cause => "Unable to deserialize payload: " ++ cause.message
  | .patchNotObject => "A property patch must be a JSON object"
  | .desiredWithoutVersion => "Desired properties without a valid `$version`"
  | .twinWithoutDesired => "The twin document does not contain desired properties"
  | .emptyName => "A property name must not be empty"
  | .reservedName => "`" ++ markerKey ++ "` is a reserved property name"
  | .envelopeNotObject => "an acknowledgement must be a JSON object"
  | .envelopeWithout key => s!"missing `{key}`"
  | .envelopeInvalid key => s!"invalid `{key}`"
  | .unknownCode status => s!"`{status}` is not an acknowledgement code"
  | .refusedAction action property state =>
    s!"Cannot {action.describe} property `{property}` from state {state.describe}"
  | .openCode code property => s!"`{code.describe}` does not close the exchange of `{property}`"
  | .stated _ description => description

/-- The error in full. -/
def display (e : TwinError) : String :=
  e.kind.title ++ ": " ++ e.description

end TwinError
end DeviceTwin
