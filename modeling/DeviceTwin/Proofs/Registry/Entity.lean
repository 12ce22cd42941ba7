import DeviceTwin.Proofs.Json.Restored
import DeviceTwin.Proofs.Registry.Form

/-!
Entities are read as they were written. The JSON form of a value stands for the value (`LawfulForm`), and a reader
restores it (`RestoredForm`), so a payload that is written of a value is read as the value (`readPayload_print`). Both
laws are proved for a record from those of its fields. A configuration is restored as far as its content is a document.
-/
namespace DeviceTwin.Registry
open Json

/-! ### What a form stands for -/

/-- A type whose JSON forms stand for the values they are written of. -/
class LawfulForm (α : Type) [JsonForm α] : Prop where
  ofJson_toJson : ∀ a : α, ofJson (toJson a) = a

attribute [simp] LawfulForm.ofJson_toJson

@[simp] theorem ofJson_comp_toJson {α : Type} [JsonForm α] [LawfulForm α] : (ofJson ∘ toJson : α → α) = id :=
  funext LawfulForm.ofJson_toJson

/-- A type whose values all have a name, each one of its own. -/
class LawfulNamed (α : Type) [Named α] : Prop where
  complete : ∀ a : α, a ∈ (Named.all : List α)
  distinct : ((Named.all : List α).map Named.name).Nodup

instance : LawfulNamed AuthenticationType := ⟨fun a => by cases a <;> decide, by decide⟩
instance : LawfulNamed DeviceStatus := ⟨fun a => by cases a <;> decide, by decide⟩
instance : LawfulNamed ConnectionState := ⟨fun a => by cases a <;> decide, by decide⟩
instance : LawfulNamed ImportMode := ⟨fun a => by cases a <;> decide, by decide⟩
instance : LawfulNamed JobType := ⟨fun a => by cases a <;> decide, by decide⟩
instance : LawfulNamed JobStatus := ⟨fun a => by cases a <;> decide, by decide⟩
instance : LawfulNamed StorageAuthentication := ⟨fun a => by cases a <;> decide, by decide⟩

instance {α : Type} [Named α] [LawfulNamed α] : LawfulForm α where
  ofJson_toJson a := by
    have known := LawfulNamed.complete a
    cases found : Named.all.find? fun b : α => (Json.str (Named.name a)).text? = some (Named.name b) with
    | none =>
      have other := List.find?_eq_none.mp found a known
      simp [text?] at other
    | some b =>
      have named : Named.name a = Named.name b := by simpa [text?] using List.find?_some found
      have same := List.inj_on_of_nodup_map LawfulNamed.distinct known (List.mem_of_find?_eq_some found) named
      exact (congrArg (·.getD Named.fallback) found).trans same.symm

instance : LawfulForm String := ⟨fun _ => rfl⟩
instance : LawfulForm Json := ⟨fun _ => rfl⟩
instance : LawfulForm Bool := ⟨fun _ => rfl⟩
instance : LawfulForm UInt8 := ⟨fun n => by simp [toJson, ofJson, Json.int, int?]⟩
instance : LawfulForm UInt64 := ⟨fun n => by simp [toJson, ofJson, Json.int, int?]⟩
instance : LawfulForm Int32 := ⟨fun n => by simp [toJson, ofJson, Json.int, int?]⟩
instance : LawfulForm Int64 := ⟨fun n => by simp [toJson, ofJson, Json.int, int?]⟩

instance {α : Type} [JsonForm α] [LawfulForm α] : LawfulForm (List α) where
  ofJson_toJson l := by
    simp [toJson, ofJson]

instance {α : Type} [JsonForm α] [LawfulForm α] : LawfulForm (OrderedMap α) where
  ofJson_toJson m := by
    simp [toJson, ofJson, Function.comp_def, OrderedMap.ofEntries_entries]

section Fields
variable {α : Type} [JsonForm α] (key key' : String) (fields : Fields)

@[simp] theorem find?_field (value : α) :
    Assoc.find? key (field key' value) = if key' = key then some (toJson value) else none := rfl

@[simp] theorem find?_field? (value : Option α) :
    Assoc.find? key (field? key' value) = if key' = key then value.map toJson else none := by
  cases value with
  | none => simp [field?, Assoc.find?]
  | some value => rfl

@[simp] theorem valueOf_obj : (valueOf key (.obj fields) : α) = ofJson ((Assoc.find? key fields).getD .null) := rfl
@[simp] theorem valueOf?_obj : (valueOf? key (.obj fields) : Option α) = (Assoc.find? key fields).map ofJson := rfl

end Fields

-- The value of each field is found under its own key.
instance : LawfulForm SymmetricKey := ⟨fun s => by simp only [toJson, ofJson]; simp⟩
instance : LawfulForm Thumbprint := ⟨fun t => by simp only [toJson, ofJson]; simp⟩
instance : LawfulForm Authentication := ⟨fun a => by simp only [toJson, ofJson]; simp⟩
instance : LawfulForm Capabilities := ⟨fun c => by simp only [toJson, ofJson]; simp⟩
instance : LawfulForm Device := ⟨fun d => by simp only [toJson, ofJson]; simp⟩
instance : LawfulForm Module := ⟨fun m => by simp only [toJson, ofJson]; simp⟩
instance : LawfulForm BulkEntry := ⟨fun b => by simp only [toJson, ofJson]; simp⟩
instance : LawfulForm Job := ⟨fun j => by simp only [toJson, ofJson]; simp⟩
instance : LawfulForm ConfigurationMetrics := ⟨fun c => by simp only [toJson, ofJson]; simp⟩
instance : LawfulForm ConfigurationContent := ⟨fun c => by simp only [toJson, ofJson]; simp⟩
instance : LawfulForm Configuration := ⟨fun c => by simp only [toJson, ofJson]; simp⟩

/-! ### What a reader restores -/

/-- A type whose values are restored from what is written of them. -/
class RestoredForm (α : Type) [JsonForm α] [PlainForm α] : Prop where
  restored : ∀ a : α, Restored (PlainForm.depth α) (JsonForm.schema α) (toJson a)

/-- A value that has the type of its schema is restored. -/
theorem restored_typed {α : Type} [JsonForm α] [form : PlainForm α] (a : α)
    (typed : Typed (JsonForm.schema α) (toJson a)) : Restored form.depth (JsonForm.schema α) (toJson a) :=
  typed.restored (form.plain a).document

instance : RestoredForm String := ⟨fun t => restored_typed t (.text t)⟩
instance : RestoredForm Bool := ⟨fun b => restored_typed b (.boolean b)⟩
instance : RestoredForm UInt8 := ⟨fun n => restored_typed n (IntegerType.typed_toInt .u8 n)⟩
instance : RestoredForm UInt64 := ⟨fun n => restored_typed n (IntegerType.typed_toInt .u64 n)⟩
instance : RestoredForm Int32 := ⟨fun n => restored_typed n (IntegerType.typed_toInt .i32 n)⟩
instance : RestoredForm Int64 := ⟨fun n => restored_typed n (IntegerType.typed_toInt .i64 n)⟩

instance {α : Type} [Named α] [LawfulNamed α] : RestoredForm α :=
  ⟨fun a => restored_variant (List.mem_map_of_mem (LawfulNamed.complete a))⟩

instance {α : Type} [JsonForm α] [form : PlainForm α] [RestoredForm α] : RestoredForm (List α) where
  restored l := by
    refine restored_sequence (fun j member => ?_) fun j member => ?_
    · obtain ⟨a, _, rfl⟩ := List.mem_map.mp member
      exact (form.plain a).document
    · obtain ⟨a, _, rfl⟩ := List.mem_map.mp member
      exact RestoredForm.restored a

instance {α : Type} [JsonForm α] [form : PlainForm α] [RestoredForm α] : RestoredForm (OrderedMap α) where
  restored m := by
    refine restored_mapping ?_ (fun f member => ?_) fun f member => ?_
    · rw [Assoc.keys, List.map_map]
      exact m.distinct
    · obtain ⟨e, _, rfl⟩ := List.mem_map.mp member
      exact (form.plain e.2).exact
    · obtain ⟨e, _, rfl⟩ := List.mem_map.mp member
      exact RestoredForm.restored e.2

end DeviceTwin.Registry

/-! ### Records -/

namespace DeviceTwin.Json.Filled
open DeviceTwin.Registry

variable {α : Type} [JsonForm α] {depth : Nat}

variable [form : PlainForm α] [RestoredForm α]

theorem needed (deep : form.depth ≤ depth) (key : String) (value : α) :
    Filled depth [Registry.needed α key] (field key value) :=
  .written ((RestoredForm.restored value).mono deep) (.inl nofun) .empty

theorem possible (deep : form.depth ≤ depth) (key : String) (value : Option α) :
    Filled depth [Registry.possible α key] (field? key value) :=
  match value with
  | none => .omitted rfl .empty
  | some a => by
    have plain := (form.plain a).mono deep
    have restored := ((RestoredForm.restored a).mono deep).optional plain.document plain.there
    exact .written restored (.inr plain.there) .empty

theorem orDefault (deep : form.depth ≤ depth) (key : String) (default value : α) :
    Filled depth [Registry.orDefault key default] (field key value) :=
  .written ((RestoredForm.restored value).mono deep) (.inl nofun) .empty

end DeviceTwin.Json.Filled

namespace DeviceTwin.Registry
open Json

instance : RestoredForm SymmetricKey where
  restored k :=
    restored_record
      (Filled.possible (by decide) _ k.primaryKey |>.append (.possible (by decide) _ k.secondaryKey))
      (by decide) _

instance : RestoredForm Thumbprint where
  restored t :=
    restored_record
      (Filled.possible (by decide) _ t.primaryThumbprint |>.append (.possible (by decide) _ t.secondaryThumbprint))
      (by decide) _

instance : RestoredForm Authentication where
  restored a :=
    restored_record
      (Filled.possible (by decide) _ a.symmetricKey |>.append (.possible (by decide) _ a.thumbprint)
        |>.append (.orDefault (by decide) _ _ a.type))
      (by decide) _

instance : RestoredForm Capabilities where
  restored c := restored_record (Filled.orDefault (by decide) _ _ c.iotEdge) (by decide) _

instance : RestoredForm Device where
  restored d :=
    restored_record
      (Filled.needed (by decide) _ d.id |>.append (.possible (by decide) _ d.generationId)
        |>.append (.possible (by decide) _ d.etag) |>.append (.orDefault (by decide) _ _ d.status)
        |>.append (.possible (by decide) _ d.statusReason) |>.append (.possible (by decide) _ d.statusUpdatedTime)
        |>.append (.orDefault (by decide) _ _ d.connectionState)
        |>.append (.possible (by decide) _ d.connectionStateUpdatedTime)
        |>.append (.possible (by decide) _ d.lastActivityTime)
        |>.append (.orDefault (by decide) _ _ d.cloudToDeviceMessageCount)
        |>.append (.possible (by decide) _ d.authentication) |>.append (.possible (by decide) _ d.capabilities)
        |>.append (.possible (by decide) _ d.deviceScope))
      (by decide) _

instance : RestoredForm Module where
  restored m :=
    restored_record
      (Filled.needed (by decide) _ m.deviceId |>.append (.needed (by decide) _ m.id)
        |>.append (.possible (by decide) _ m.managedBy) |>.append (.possible (by decide) _ m.generationId)
        |>.append (.possible (by decide) _ m.etag) |>.append (.orDefault (by decide) _ _ m.connectionState)
        |>.append (.possible (by decide) _ m.connectionStateUpdatedTime)
        |>.append (.possible (by decide) _ m.lastActivityTime)
        |>.append (.orDefault (by decide) _ _ m.cloudToDeviceMessageCount)
        |>.append (.possible (by decide) _ m.authentication))
      (by decide) _

instance : RestoredForm BulkEntry where
  restored e :=
    restored_record
      (Filled.needed (by decide) _ e.id |>.append (.possible (by decide) _ e.moduleId)
        |>.append (.possible (by decide) _ e.etag) |>.append (.needed (by decide) _ e.importMode)
        |>.append (.orDefault (by decide) _ _ e.status) |>.append (.possible (by decide) _ e.statusReason)
        |>.append (.possible (by decide) _ e.authentication) |>.append (.possible (by decide) _ e.capabilities)
        |>.append (.possible (by decide) _ e.deviceScope))
      (by decide) _

instance : RestoredForm Job where
  restored j :=
    restored_record
      (Filled.possible (by decide) _ j.id |>.append (.needed (by decide) _ j.type)
        |>.append (.orDefault (by decide) _ _ j.status) |>.append (.orDefault (by decide) _ _ j.progress)
        |>.append (.possible (by decide) _ j.inputContainer) |>.append (.possible (by decide) _ j.outputContainer)
        |>.append (.orDefault (by decide) _ _ j.excludesKeys)
        |>.append (.possible (by decide) _ j.storageAuthentication)
        |>.append (.possible (by decide) _ j.startTimeUtc) |>.append (.possible (by decide) _ j.endTimeUtc)
        |>.append (.possible (by decide) _ j.failureReason))
      (by decide) _

instance : RestoredForm ConfigurationMetrics where
  restored m :=
    restored_record
      (Filled.orDefault (by decide) _ _ m.results |>.append (.orDefault (by decide) _ _ m.queries))
      (by decide) _

/-! ### Configurations -/

section Configuration
variable {depth : Nat} {fields : Fields}

theorem fields_of_isDocument (document : IsDocument depth (.obj fields)) :
    ∃ inner, depth = inner + 1 ∧ ∀ f ∈ fields, IsDocument inner f.2 := by
  cases document with
  | obj inside => exact ⟨_, rfl, inside⟩

theorem fields_of_exact (exact_ : Exact (.obj fields)) : ∀ f ∈ fields, Exact f.2 := by
  cases exact_ with
  | obj _ inside => exact inside

/-- A map of documents is restored as a document is. -/
theorem restored_documents {m : OrderedMap Json} (document : IsDocument depth (toJson m)) (exact_ : Exact (toJson m)) :
    Restored depth (JsonForm.schema (OrderedMap Json)) (toJson m) := by
  obtain ⟨inner, rfl, documents⟩ := fields_of_isDocument document
  have inside := fields_of_exact exact_
  refine restored_mapping ?_ inside fun f member => restored_document (documents f member) (inside f member)
  rw [Assoc.keys, List.map_map]
  exact m.distinct

/-- One of the maps of a content. -/
theorem filled_documents (key : String) (content : Option (OrderedMap Json))
    (documents : ∀ f ∈ field? key content, IsDocument depth f.2) (inside : ∀ f ∈ field? key content, Exact f.2) :
    Filled depth [possible (OrderedMap Json) key] (field? key content) := by
  cases content with
  | none => exact .omitted rfl .empty
  | some m =>
    have document : IsDocument depth (toJson m) := documents _ List.mem_cons_self
    have exact_ : Exact (toJson m) := inside _ List.mem_cons_self
    exact .written ((restored_documents document exact_).optional document rfl) (.inr rfl) .empty

theorem ConfigurationContent.restored {c : ConfigurationContent} (document : IsDocument depth (toJson c))
    (exact_ : Exact (toJson c)) : Restored depth (JsonForm.schema ConfigurationContent) (toJson c) := by
  obtain ⟨inner, rfl, documents⟩ := fields_of_isDocument document
  have inside := fields_of_exact exact_
  simp only [List.forall_mem_append] at documents inside
  obtain ⟨⟨device, modules⟩, module⟩ := documents
  obtain ⟨⟨device', modules'⟩, module'⟩ := inside
  exact restored_record
    ((filled_documents _ _ device device').append (filled_documents _ _ modules modules')
      |>.append (filled_documents _ _ module module'))
    (by decide) _

theorem Configuration.restored {c : Configuration} (document : IsDocument depth (toJson c.content))
    (exact_ : Exact (toJson c.content)) (shallow : depth < depthLimit) :
    Restored depthLimit (JsonForm.schema Configuration) (toJson c) := by
  have content := (c.content.restored document exact_).mono (Nat.le_of_lt_succ shallow)
  exact restored_record
    (Filled.needed (by decide) _ c.id |>.append (.needed (by decide) _ c.schemaVersion)
      |>.append (.orDefault (by decide) _ _ c.labels)
      |>.append (.written (f := orDefault "content" ConfigurationContent.empty) content (.inl nofun) .empty)
      |>.append (.orDefault (by decide) _ _ c.targetCondition) |>.append (.possible (by decide) _ c.createdTimeUtc)
      |>.append (.possible (by decide) _ c.lastUpdatedTimeUtc) |>.append (.orDefault (by decide) _ _ c.priority)
      |>.append (.possible (by decide) _ c.systemMetrics) |>.append (.possible (by decide) _ c.metrics)
      |>.append (.possible (by decide) _ c.etag))
    (by decide) _

end Configuration

/-! ### Payloads -/

/-- What a reader restores as the form of a value is read as the value. -/
theorem readPayload_of_restored {α : Type} [JsonForm α] [LawfulForm α] {a : α}
    (restored : Restored depthLimit (JsonForm.schema α) (toJson a)) (s : Serializer) :
    readPayload s (toJson a).print = .ok a := by
  simp only [readPayload, Serializer.deserialize, restored.read, Except.map, LawfulForm.ofJson_toJson]

/-- The payload of a plain value is read as the value. -/
theorem readPayload_print {α : Type} [JsonForm α] [form : PlainForm α] [LawfulForm α] [RestoredForm α]
    (shallow : form.depth ≤ depthLimit) (s : Serializer) (a : α) : readPayload s (toJson a).print = .ok a :=
  readPayload_of_restored ((RestoredForm.restored a).mono shallow) s

end DeviceTwin.Registry
