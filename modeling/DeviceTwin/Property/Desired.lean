import DeviceTwin.Property.Patch
import DeviceTwin.Serializer

/-!
Desired properties: what the service wants a device to have, under the version that the service gave to it.
-/
namespace DeviceTwin

def versionKey : String := "$version"
def metadataKey : String := "$metadata"

structure DesiredSet where
  version : Int64
  entries : Patch

namespace DesiredSet

/-- Desired properties from a document that holds the version among them; metadata is dropped. -/
def ofJson (j : Json) : Except TwinError DesiredSet := do
  let entries ← Patch.ofJson j
  match (entries.get? versionKey).bind Json.int64? with
  | some version => pure ⟨version, (entries.erase versionKey).erase metadataKey⟩
  | none => throw .desiredWithoutVersion

/-- The desired properties within a twin document, which holds them on its own or together with the reported ones. -/
def ofTwin (twin : Json) : Except TwinError DesiredSet :=
  match (twin.get? "properties").bind (Json.get? "desired") <|> twin.get? "desired" with
  | some desired => ofJson desired
  | none => .error .twinWithoutDesired

def ofPayload (s : Serializer) (payload : String) : Except TwinError DesiredSet := do
  ofJson (← s.deserialize .document payload)

def property (name : String) (component : Option String) (d : DesiredSet) : Option Json :=
  d.entries.property name component

end DesiredSet
end DeviceTwin
