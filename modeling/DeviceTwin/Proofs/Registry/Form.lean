import DeviceTwin.Proofs.Json.Payload
import DeviceTwin.Registry.Operation

/-!
The JSON forms of what the registry holds. Apart from configurations, whose content is arbitrary, they are plain
(`PlainForm`): documents in which no key is there twice and no field is `null`. A serializer writes a plain value as it
is (`writePayload_plain`), and the payload holds the value again (`parse_print`).
-/
namespace DeviceTwin.Registry
open DeviceTwin.Json

/-- A document that every serializer writes as it is, and that is read back as it is. -/
structure Plain (depth : Nat) (j : Json) : Prop where
  document : IsDocument depth j
  exact : Exact j
  form : ∀ s : Serializer, s.form j = j
  there : j.isNull = false

/-- A type whose values all have plain forms. -/
class PlainForm (α : Type) [JsonForm α] where
  depth : Nat
  plain : ∀ a : α, Plain depth (toJson a)

namespace Plain
variable {depth depth' : Nat} {j : Json}

theorem mono (plain : Plain depth j) (deeper : depth ≤ depth') : Plain depth' j :=
  ⟨plain.document.mono deeper, plain.exact, plain.form, plain.there⟩

theorem bool (b : Bool) : Plain 0 (.bool b) := ⟨.bool 0 b, .bool b, fun s => s.form_bool b, rfl⟩
theorem str (t : String) : Plain 0 (.str t) := ⟨.str 0 t, .str t, fun s => s.form_str t, rfl⟩

theorem int {n : Int} (range : leastInt ≤ n ∧ n ≤ greatestInt) : Plain 0 (.int n) :=
  ⟨.num 0 range, .int n, fun s => s.form_num _, rfl⟩

theorem arr {items : List Json} (inside : ∀ j ∈ items, Plain depth j) : Plain (depth + 1) (.arr items) where
  document := .arr fun j member => (inside j member).document
  exact := .arr fun j member => (inside j member).exact
  form s := by
    rw [Serializer.form_arr, List.map_congr_left fun j member => (inside j member).form s, List.map_id']
  there := rfl

theorem obj {fields : Fields} (distinct : (Assoc.keys fields).Nodup) (inside : ∀ f ∈ fields, Plain depth f.2) :
    Plain (depth + 1) (.obj fields) where
  document := .obj fun f member => (inside f member).document
  exact := .obj distinct fun f member => (inside f member).exact
  form s := by
    have kept : fields.filter (fun f => s.keeps f.2) = fields :=
      List.filter_eq_self.mpr fun f member => Serializer.keeps_of_isNull (inside f member).there
    have same : fields.map (fun f => (f.1, s.form f.2)) = fields := by
      conv => rhs; rw [← List.map_id' fields]
      exact List.map_congr_left fun f member => by rw [(inside f member).form s]
    rw [Serializer.form_obj, kept, same]
  there := rfl

end Plain

/-! ### Records -/

/-- Fields with plain values, whose keys are some of the declared ones, in their order. -/
structure PlainFields (depth : Nat) (declared : List String) (fields : Fields) : Prop where
  keys : (Assoc.keys fields).Sublist declared
  plain : ∀ f ∈ fields, Plain depth f.2

namespace PlainFields
variable {α : Type} [JsonForm α] {depth : Nat} {declared declared' : List String} {fields fields' : Fields}

theorem field [form : PlainForm α] (deep : form.depth ≤ depth) (key : String) (value : α) :
    PlainFields depth [key] (field key value) := by
  refine ⟨.refl _, fun f member => ?_⟩
  rw [List.mem_singleton.mp member]
  exact (form.plain value).mono deep

theorem field? [form : PlainForm α] (deep : form.depth ≤ depth) (key : String) (value : Option α) :
    PlainFields depth [key] (field? key value) := by
  cases value with
  | none => exact ⟨List.nil_sublist _, nofun⟩
  | some value => exact field deep key value

theorem append (first : PlainFields depth declared fields) (second : PlainFields depth declared' fields') :
    PlainFields depth (declared ++ declared') (fields ++ fields') := by
  refine ⟨?_, fun f member => ?_⟩
  · rw [Assoc.keys, List.map_append]
    exact first.keys.append second.keys
  · exact (List.mem_append.mp member).elim (first.plain f) (second.plain f)

/-- One more field that always has a value. -/
theorem and [form : PlainForm α] (first : PlainFields depth declared fields) (deep : form.depth ≤ depth) (key : String)
    (value : α) : PlainFields depth (declared ++ [key]) (fields ++ Registry.field key value) :=
  first.append (field deep key value)

/-- One more field that may have none. -/
theorem and? [form : PlainForm α] (first : PlainFields depth declared fields) (deep : form.depth ≤ depth) (key : String)
    (value : Option α) : PlainFields depth (declared ++ [key]) (fields ++ Registry.field? key value) :=
  first.append (field? deep key value)

theorem obj (distinct : declared.Nodup) (fields_ : PlainFields depth declared fields) : Plain (depth + 1) (.obj fields) :=
  .obj (distinct.sublist fields_.keys) fields_.plain

end PlainFields

instance : PlainForm String := ⟨0, Plain.str⟩
instance : PlainForm Bool := ⟨0, Plain.bool⟩
instance : PlainForm UInt8 := ⟨0, fun n => .int (IntegerType.toInt_within .u8 n)⟩
instance : PlainForm UInt64 := ⟨0, fun n => .int (by
  have := n.toNat_lt
  simp only [leastInt, greatestInt]
  omega)⟩

instance : PlainForm Int32 := ⟨0, fun n => .int (by
  have := n.le_toInt
  have := n.toInt_lt
  simp only [leastInt, greatestInt]
  omega)⟩

instance : PlainForm Int64 := ⟨0, fun n => .int (IntegerType.toInt_within .i64 n)⟩

instance {α : Type} [Named α] : PlainForm α := ⟨0, fun a => .str (Named.name a)⟩

instance {α : Type} [JsonForm α] [form : PlainForm α] : PlainForm (List α) where
  depth := form.depth + 1
  plain l := .arr fun j member => by
    obtain ⟨a, _, rfl⟩ := List.mem_map.mp member
    exact form.plain a

instance {α : Type} [JsonForm α] [form : PlainForm α] : PlainForm (OrderedMap α) where
  depth := form.depth + 1
  plain m := by
    refine .obj ?_ fun f member => ?_
    · rw [Assoc.keys, List.map_map]
      exact m.distinct
    · obtain ⟨e, _, rfl⟩ := List.mem_map.mp member
      exact form.plain e.2

instance : PlainForm SymmetricKey where
  depth := 1
  plain k := PlainFields.field? (by decide) _ k.primaryKey |>.and? (by decide) _ k.secondaryKey |>.obj (by decide)

instance : PlainForm Thumbprint where
  depth := 1
  plain t :=
    PlainFields.field? (by decide) _ t.primaryThumbprint |>.and? (by decide) _ t.secondaryThumbprint
      |>.obj (by decide)

instance : PlainForm Authentication where
  depth := 2
  plain a :=
    PlainFields.field? (by decide) _ a.symmetricKey |>.and? (by decide) _ a.thumbprint |>.and (by decide) _ a.type
      |>.obj (by decide)

instance : PlainForm Capabilities where
  depth := 1
  plain c := PlainFields.field (by decide) _ c.iotEdge |>.obj (by decide)

instance : PlainForm Device where
  depth := 3
  plain d :=
    PlainFields.field (by decide) _ d.id |>.and? (by decide) _ d.generationId |>.and? (by decide) _ d.etag
      |>.and (by decide) _ d.status |>.and? (by decide) _ d.statusReason |>.and? (by decide) _ d.statusUpdatedTime
      |>.and (by decide) _ d.connectionState |>.and? (by decide) _ d.connectionStateUpdatedTime
      |>.and? (by decide) _ d.lastActivityTime |>.and (by decide) _ d.cloudToDeviceMessageCount
      |>.and? (by decide) _ d.authentication |>.and? (by decide) _ d.capabilities
      |>.and? (by decide) _ d.deviceScope |>.obj (by decide)

instance : PlainForm Module where
  depth := 3
  plain m :=
    PlainFields.field (by decide) _ m.deviceId |>.and (by decide) _ m.id |>.and? (by decide) _ m.managedBy
      |>.and? (by decide) _ m.generationId |>.and? (by decide) _ m.etag |>.and (by decide) _ m.connectionState
      |>.and? (by decide) _ m.connectionStateUpdatedTime |>.and? (by decide) _ m.lastActivityTime
      |>.and (by decide) _ m.cloudToDeviceMessageCount |>.and? (by decide) _ m.authentication |>.obj (by decide)

instance : PlainForm BulkEntry where
  depth := 3
  plain e :=
    PlainFields.field (by decide) _ e.id |>.and? (by decide) _ e.moduleId |>.and? (by decide) _ e.etag
      |>.and (by decide) _ e.importMode |>.and (by decide) _ e.status |>.and? (by decide) _ e.statusReason
      |>.and? (by decide) _ e.authentication |>.and? (by decide) _ e.capabilities
      |>.and? (by decide) _ e.deviceScope |>.obj (by decide)

instance : PlainForm Job where
  depth := 1
  plain j :=
    PlainFields.field? (by decide) _ j.id |>.and (by decide) _ j.type |>.and (by decide) _ j.status
      |>.and (by decide) _ j.progress |>.and? (by decide) _ j.inputContainer
      |>.and? (by decide) _ j.outputContainer |>.and (by decide) _ j.excludesKeys
      |>.and? (by decide) _ j.storageAuthentication |>.and? (by decide) _ j.startTimeUtc
      |>.and? (by decide) _ j.endTimeUtc |>.and? (by decide) _ j.failureReason |>.obj (by decide)

instance : PlainForm ConfigurationMetrics where
  depth := 2
  plain m := PlainFields.field (by decide) _ m.results |>.and (by decide) _ m.queries |>.obj (by decide)

/-- What holds of plain values and of its content holds of every field of a configuration. -/
theorem Configuration.forall_fields {P : Json → Prop} (c : Configuration) (plain : ∀ j, Plain 2 j → P j)
    (content : P (toJson c.content)) : ∃ fields, toJson c = .obj fields ∧ ∀ f ∈ fields, P f.2 := by
  have always {α : Type} [JsonForm α] [form : PlainForm α] (deep : form.depth ≤ 2) (key : String) (a : α) :
      ∀ f ∈ field key a, P f.2 :=
    fun f member => plain _ ((PlainFields.field deep key a).plain f member)
  have maybe {α : Type} [JsonForm α] [form : PlainForm α] (deep : form.depth ≤ 2) (key : String) (a : Option α) :
      ∀ f ∈ field? key a, P f.2 :=
    fun f member => plain _ ((PlainFields.field? deep key a).plain f member)
  have content_ : ∀ f ∈ field "content" c.content, P f.2 := List.forall_mem_singleton.mpr content
  refine ⟨_, rfl, ?_⟩
  simp only [List.forall_mem_append, and_assoc]
  exact ⟨always (by decide) _ _, always (by decide) _ _, always (by decide) _ _, content_, always (by decide) _ _,
    maybe (by decide) _ _, maybe (by decide) _ _, always (by decide) _ _, maybe (by decide) _ _,
    maybe (by decide) _ _, maybe (by decide) _ _⟩

/-! ### Payloads -/

section Payloads
variable {α : Type} [JsonForm α] [form : PlainForm α]

theorem writePayload_plain (shallow : form.depth ≤ depthLimit) (s : Serializer) (a : α) :
    writePayload s a = .ok (toJson a).print := by
  have plain := (form.plain a).mono shallow
  rw [writePayload, Serializer.serialize, s.prepare_document plain.document, plain.form]

/-- The payload of a value holds its form. -/
theorem parse_form (shallow : form.depth ≤ depthLimit) (a : α) : Json.parse (toJson a).print = .ok (toJson a) :=
  parse_print ((form.plain a).mono shallow).document (form.plain a).exact

end Payloads

/-! ### Values that can be written -/

/-- A value that every serializer writes. -/
def Writable (j : Json) : Prop := j.toDocument.isSome = true

namespace Writable

theorem of_plain {depth : Nat} {j : Json} (plain : Plain depth j) : Writable j := by
  rw [Writable, toDocument_of_isDocument plain.document]
  rfl

theorem plain {α : Type} [JsonForm α] [form : PlainForm α] (a : α) : Writable (toJson a) :=
  of_plain (form.plain a)

/-- An object can be written if all its fields can. -/
theorem obj {fields : Fields} (fields_ : ∀ f ∈ fields, Writable f.2) : Writable (.obj fields) := by
  suffices inside : (fieldsToDocument fields).isSome = true by simpa [Writable, toDocument] using inside
  induction fields with
  | nil => rfl
  | cons f fields ih =>
    rw [List.forall_mem_cons] at fields_
    obtain ⟨k, v⟩ := f
    obtain ⟨value, here⟩ := Option.isSome_iff_exists.mp fields_.1
    obtain ⟨rest, later⟩ := Option.isSome_iff_exists.mp (ih fields_.2)
    have value_ : toDocument v = some value := here
    simp [fieldsToDocument, value_, later]

theorem serialize {j : Json} (writable : Writable j) (s : Serializer) :
    ∃ payload, s.serialize (.value j) = .ok payload := by
  obtain ⟨document, same⟩ := Option.isSome_iff_exists.mp writable
  cases s with
  | compact => exact ⟨document.withoutNulls.print, by simp [Serializer.serialize, Serializer.prepare, same]⟩
  | verbose => exact ⟨j.print, rfl⟩

section Fields
variable {α : Type} [JsonForm α]

theorem field {value : α} (writable : Writable (toJson value)) (key : String) :
    ∀ f ∈ field key value, Writable f.2 := by
  simpa [Registry.field] using writable

theorem field? {value : Option α} (writable : ∀ v ∈ value, Writable (toJson v)) (key : String) :
    ∀ f ∈ field? key value, Writable f.2 := by
  cases value with
  | none => nofun
  | some v => exact field (writable v rfl) key

end Fields

end Writable

/-- The values that a content holds. -/
def ConfigurationContent.documents (c : ConfigurationContent) : List Json :=
  [c.deviceContent, c.modulesContent, c.moduleContent].flatMap fun content =>
    content.toList.flatMap fun m => m.entries.map (·.2)

/-- A content can be written if the values in it can. -/
theorem ConfigurationContent.writable (c : ConfigurationContent) (documents : ∀ j ∈ c.documents, Writable j) :
    Writable (toJson c) := by
  have part {content : Option (OrderedMap Json)}
      (part : content ∈ [c.deviceContent, c.modulesContent, c.moduleContent]) :
      ∀ m ∈ content, Writable (toJson m) := by
    rintro m rfl
    refine .obj fun f member => documents _ ?_
    obtain ⟨e, inside, rfl⟩ := List.mem_map.mp member
    exact List.mem_flatMap.mpr ⟨_, part, by simpa using ⟨e.1, inside⟩⟩
  refine .obj ?_
  simp only [List.forall_mem_append]
  exact ⟨⟨.field? (part (by simp)) _, .field? (part (by simp)) _⟩, .field? (part (by simp)) _⟩

theorem Configuration.writable (c : Configuration) (documents : ∀ j ∈ c.content.documents, Writable j) :
    Writable (toJson c) := by
  obtain ⟨fields, same, inside⟩ := c.forall_fields (fun _ => Writable.of_plain) (c.content.writable documents)
  rw [same]
  exact .obj inside

end DeviceTwin.Registry
