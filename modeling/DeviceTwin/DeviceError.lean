import DeviceTwin.TwinError

/-!
What can go wrong on a device: besides the errors of payloads and patches, a handler that is registered twice and a
report that is not delivered.
-/
namespace DeviceTwin

inductive DeviceError.Kind where
  | convention
  | serialization
  | report
  | duplicateHandler
deriving DecidableEq

def DeviceError.Kind.title : DeviceError.Kind → String
  | .convention => "Convention"
  | .serialization => "Serialization"
  | .report => "Report"
  | .duplicateHandler => "Duplicate Handler"

/-- What a handler is registered for. -/
inductive HandlerKind where
  | property
  | command

def HandlerKind.title : HandlerKind → String
  | .property => "Property"
  | .command => "Command"

inductive DeviceError where
  | twin (cause : TwinError)
  | json (cause : Json.ReadError)
  /-- A report is not delivered, for a reason of the transport. -/
  | undelivered (reason : String)
  | duplicateHandler (kind : HandlerKind) (name : String) (component : Option String)

namespace DeviceError

def kind : DeviceError → Kind
  | .twin cause =>
    match cause.kind with
    | .serialization => .serialization
    | .deserialization => .serialization
    | _ => .convention
  | .json _ => .serialization
  | .undelivered _ => .report
  | .duplicateHandler _ _ _ => .duplicateHandler

def description : DeviceError → String
  | .twin cause => cause.description
  | .json cause => cause.message
  | .undelivered reason => reason
  | .duplicateHandler kind name component =>
    s!"{kind.title} `{name}` of component `" ++ component.getD "root" ++ "` already has a handler"

/-- The error in full. -/
def display (e : DeviceError) : String :=
  e.kind.title ++ "\nCause: " ++ e.description

end DeviceError

/-- A key of a handler as it is shown in a list. -/
def showKey (name : String) (component : Option String) : String :=
  "(" ++ Text.quoted name ++ ", " ++
    (match component with
      | some c => "Some(" ++ Text.quoted c ++ ")"
      | none => "None") ++ ")"

def showKeys (keys : List (String × Option String)) : String :=
  "[" ++ String.intercalate ", " (keys.map fun k => showKey k.1 k.2) ++ "]"

end DeviceTwin
