import DeviceTwin.Property.Ack
import DeviceTwin.Serializer

/-!
The property convention: how values of an application are found in patches, and how the patches are built that report
them and acknowledge them. A property that is not there is no error.
-/
namespace DeviceTwin
open Json (Schema)

structure Convention where
  serializer : Serializer
  style : AckStyle

namespace Convention

def default : Convention := ⟨.compact, .twinCollection⟩

def tryGet (c : Convention) (schema : Schema) (patch : Patch) (name : String) (component : Option String) :
    Except TwinError (Option Json) :=
  match patch.property name component with
  | none => .ok none
  | some j => do return some (← c.serializer.ofWire schema j)

def tryGetAck (c : Convention) (schema : Schema) (patch : Patch) (name : String) (component : Option String) :
    Except TwinError (Option Ack) :=
  match patch.property name component with
  | none => .ok none
  | some envelope => do
    let ack ← c.style.decode envelope
    let value ← c.serializer.ofWire schema ack.value
    return some { ack with value }

/-- The patch that holds one property. -/
def singleEntry (name : String) (value : Json) (component : Option String) : Patch :=
  match componentName? component with
  | some k => Patch.empty.insertIn k name value
  | none => Patch.empty.insert name value

def buildAck (c : Convention) (name : String) (value : Datum) (code : AckCode) (version : Int64)
    (description component : Option String) : Except TwinError Patch := do
  checkName name
  let value ← c.serializer.toWire value
  return singleEntry name (c.style.encode ⟨value, code, version, description⟩) component

/-- The patch that reports a property as it is, without an envelope. -/
def buildReport (c : Convention) (name : String) (value : Datum) (component : Option String) :
    Except TwinError Patch := do
  checkName name
  return singleEntry name (← c.serializer.toWire value) component

def serializePatch (c : Convention) (patch : Patch) : Except TwinError String :=
  c.serializer.serialize (.value patch.toJson)

/-- The patch in a payload. -/
def deserializePatch (c : Convention) (payload : String) : Except TwinError Patch := do
  Patch.ofJson (← c.serializer.deserialize (.mapping .document) payload)

end Convention
end DeviceTwin
