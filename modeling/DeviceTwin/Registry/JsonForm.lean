import DeviceTwin.Serializer

/-!
Types with a JSON form: how a value is read, the JSON value that it is written as, and the value that a reader's JSON
value stands for. A record is written field by field in its declared order, without the fields that have no value.
-/
namespace DeviceTwin.Registry
open Json (Schema Absence)

class JsonForm (α : Type) where
  schema : Schema
  toJson : α → Json
  /-- The value of what a reader accepts; other JSON stands for any value. -/
  ofJson : Json → α

export JsonForm (toJson ofJson)

instance : JsonForm String := ⟨.text, .str, fun j => j.text?.getD ""⟩
instance : JsonForm Json := ⟨.document, fun j => j, fun j => j⟩

instance : JsonForm Bool where
  schema := .boolean
  toJson := .bool
  ofJson j := match j with
    | .bool b => b
    | _ => false

instance : JsonForm UInt8 := ⟨.u8, fun n => .int n.toNat, fun j => UInt8.ofNat (j.int?.getD 0).toNat⟩
instance : JsonForm UInt64 := ⟨.u64, fun n => .int n.toNat, fun j => UInt64.ofNat (j.int?.getD 0).toNat⟩
instance : JsonForm Int32 := ⟨.i32, fun n => .int n.toInt, fun j => Int32.ofInt (j.int?.getD 0)⟩
instance : JsonForm Int64 := ⟨.i64, fun n => .int n.toInt, fun j => Int64.ofInt (j.int?.getD 0)⟩

instance {α : Type} [JsonForm α] : JsonForm (List α) where
  schema := .sequence (JsonForm.schema α)
  toJson l := .arr (l.map toJson)
  ofJson j := match j with
    | .arr items => items.map ofJson
    | _ => []

instance {α : Type} [JsonForm α] : JsonForm (OrderedMap α) where
  schema := .mapping (JsonForm.schema α)
  toJson m := .obj (m.entries.map fun e => (e.1, toJson e.2))
  ofJson j := match j with
    | .obj fields => .ofEntries (fields.map fun f => (f.1, ofJson f.2))
    | _ => .empty

/-- A type whose values are some names. -/
class Named (α : Type) where
  all : List α
  name : α → String
  /-- The value that stands for an unknown name. -/
  fallback : α

instance {α : Type} [Named α] : JsonForm α where
  schema := .variant ((Named.all : List α).map Named.name)
  toJson a := .str (Named.name a)
  ofJson j := (Named.all.find? fun a => j.text? = some (Named.name a)).getD Named.fallback

section Fields
variable {α : Type} [JsonForm α]

/-- A field that always has a value. -/
def field (key : String) (value : α) : Fields :=
  [(key, toJson value)]

/-- A field that may have none. -/
def field? (key : String) : Option α → Fields
  | some value => field key value
  | none => []

/-- The value of a field. -/
def valueOf (key : String) (j : Json) : α :=
  ofJson ((j.get? key).getD .null)

/-- The value of a field that may have none. -/
def valueOf? (key : String) (j : Json) : Option α :=
  (j.get? key).map ofJson

/-- How a field that has to be there is read. -/
def needed (α : Type) [JsonForm α] (key : String) : Json.Field Schema :=
  Schema.required key (JsonForm.schema α)

/-- How a field that may have no value is read. -/
def possible (α : Type) [JsonForm α] (key : String) : Json.Field Schema :=
  Schema.omitted key (JsonForm.schema α)

/-- How a field with a default value is read. -/
def orDefault (key : String) (value : α) : Json.Field Schema :=
  Schema.defaulted key (JsonForm.schema α) (toJson value)

end Fields

/-- The payload of a value. -/
def writePayload {α : Type} [JsonForm α] (s : Serializer) (a : α) : Except TwinError String :=
  s.serialize (.value (toJson a))

/-- The value of a payload. -/
def readPayload {α : Type} [JsonForm α] (s : Serializer) (payload : String) : Except TwinError α :=
  (s.deserialize (JsonForm.schema α) payload).map ofJson

end DeviceTwin.Registry
