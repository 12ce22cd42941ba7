import DeviceTwin.Serializer

/-!
Telemetry messages. The payload is serialized when the message is made; after that only the properties of the message
change, which are a map in the order in which the names were first set.
-/
namespace DeviceTwin

/-- The property that names the component which sent a message. -/
def componentProperty : String := "$.sub"

structure TelemetryMessage where
  payload : String
  contentType : String
  contentEncoding : String
  properties : Assoc String

namespace TelemetryMessage

def new (s : Serializer) (telemetry : Datum) : Except TwinError TelemetryMessage := do
  return ⟨← s.serialize telemetry, s.contentType, s.contentEncoding, []⟩

def property (m : TelemetryMessage) (name value : String) : TelemetryMessage :=
  { m with properties := m.properties.insert name value }

/-- Names the component that sends the message; the empty name leaves the message to the root interface. -/
def component (m : TelemetryMessage) (name : String) : TelemetryMessage :=
  if name = "" then m else m.property componentProperty name

def propertyValue (m : TelemetryMessage) (name : String) : Option String :=
  m.properties.find? name

def componentName (m : TelemetryMessage) : Option String :=
  m.propertyValue componentProperty

end TelemetryMessage
end DeviceTwin
