import DeviceTwin.TwinError

/-!
Property patches. A patch is a JSON object in which a key is a property of the root interface or the name of a
component; a component is an object that carries the marker. Keys keep the order in which they were first set.
-/
namespace DeviceTwin

/-- What the marker of a component holds. -/
def markerValue : String := "c"

/-- The empty name addresses the root interface. -/
def componentName? (component : Option String) : Option String :=
  component.filter (· ≠ "")

theorem componentName?_idempotent (component : Option String) :
    componentName? (componentName? component) = componentName? component := by
  cases component with
  | none => rfl
  | some name => by_cases empty : name = "" <;> simp [componentName?, Option.filter, empty]

theorem componentName?_ne_empty {component : Option String} {name : String}
    (named : componentName? component = some name) : name ≠ "" := by
  obtain ⟨_, kept⟩ := Option.filter_eq_some_iff.mp named
  simpa using kept

/-- A name that a property may have. -/
def checkName (name : String) : Except TwinError Unit :=
  if name = "" then .error .emptyName
  else if name = markerKey then .error .reservedName
  else .ok ()

/-- The fields carry the marker. -/
def isMarked (fields : Fields) : Bool :=
  match fields.find? markerKey with
  | some (.str s) => s = markerValue
  | _ => false

/-- An object that carries the marker. -/
def isComponent : Json → Bool
  | .obj fields => isMarked fields
  | _ => false

abbrev Patch : Type := OrderedMap Json

namespace Patch

def empty : Patch := OrderedMap.empty

def ofJson : Json → Except TwinError Patch
  | .obj fields => .ok (.ofEntries fields)
  | _ => .error .patchNotObject

def toJson (p : Patch) : Json := .obj p.entries

/-- The object under a key. -/
def component? (component : String) (p : Patch) : Option Fields :=
  (p.get? component).bind Json.fields?

/-- Fields with the marker, which goes to the end where it is not there. -/
def marked (fields : Fields) : Fields :=
  if fields.contains markerKey then fields else fields.insert markerKey (.str markerValue)

/-- Sets a property of a component, whose object is made where the key holds none. -/
def insertIn (component name : String) (value : Json) (p : Patch) : Patch :=
  if component = "" then p.insert name value
  else p.insert component (.obj ((marked ((p.component? component).getD [])).insert name value))

/-- The value of a property. The marker is no property. -/
def property (name : String) (component : Option String) (p : Patch) : Option Json :=
  if name = markerKey then none
  else match componentName? component with
    | none => p.get? name
    | some c => (p.component? c).bind (Assoc.find? name)

/-- The names of the components, in order. -/
def components (p : Patch) : List String :=
  (p.entries.filter fun f => isComponent f.2).map (·.1)

/-- The properties of the root interface, in order. -/
def rootProperties (p : Patch) : Fields :=
  p.entries.filter fun f => !isComponent f.2

/-- Sets a key; where a component meets a component, property by property. -/
def mergeEntry (p : Patch) (key : String) (value : Json) : Patch :=
  match p.get? key, value with
  | some (.obj current), .obj incoming =>
    if isMarked current && isMarked incoming then p.insert key (.obj (Assoc.extend current incoming))
    else p.insert key value
  | _, _ => p.insert key value

/-- Sets all keys of another patch, one after the other. -/
def merge (p other : Patch) : Patch :=
  other.entries.foldl (fun acc f => acc.mergeEntry f.1 f.2) p

end Patch
end DeviceTwin
