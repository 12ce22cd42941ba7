import DeviceTwin.Proofs.Json.Places
import DeviceTwin.Proofs.Registry.Entity

/-!
The content of configurations, which is arbitrary JSON. What a serializer makes of a content is a content again
(`ConfigurationContent.form`), and it is what a reader finds in the payload (`Conveys.content`). The compact serializer
leaves out the fields that are `null`, so it keeps a content exactly if there are none in it
(`ConfigurationContent.form_compact_iff`).
-/
namespace DeviceTwin

namespace Serializer
open Json

/-- What a serializer makes of the fields of an object. -/
def fieldsForm (s : Serializer) (fields : Fields) : Fields :=
  (fields.filter fun f => s.keeps f.2).map fun f => (f.1, s.form f.2)

variable (s : Serializer) {fields fields' : Fields}

@[simp] theorem fieldsForm_append :
    s.fieldsForm (fields ++ fields') = s.fieldsForm fields ++ s.fieldsForm fields' := by
  simp [fieldsForm]

theorem keys_fieldsForm (distinct : (Assoc.keys fields).Nodup) : (Assoc.keys (s.fieldsForm fields)).Nodup := by
  rw [fieldsForm, Assoc.keys, List.map_map]
  exact distinct.sublist (List.filter_sublist.map _)

end Serializer

namespace Registry
open Json

/-! ### What a serializer makes of a value -/

/-- What a serializer writes of a value is the form of another one. -/
structure Forms {α : Type} [JsonForm α] (s : Serializer) (change : α → α) : Prop where
  form : ∀ a : α, s.form (toJson a) = toJson (change a)
  there : ∀ a : α, (toJson a).isNull = false

section Fields
variable {α : Type} [JsonForm α] {s : Serializer} {change : α → α} (key : String)

theorem Forms.field (forms : Forms s change) (a : α) : s.fieldsForm (field key a) = field key (change a) := by
  have kept := Serializer.keeps_of_isNull (s := s) (forms.there a)
  simp [Serializer.fieldsForm, Registry.field, kept, forms.form]

theorem Forms.field? (forms : Forms s change) (value : Option α) :
    s.fieldsForm (field? key value) = field? key (value.map change) := by
  cases value with
  | none => rfl
  | some a => exact forms.field key a

variable [form : PlainForm α]

theorem forms_plain : Forms s (id : α → α) :=
  ⟨fun a => (form.plain a).form s, fun a => (form.plain a).there⟩

@[simp] theorem fieldsForm_field (a : α) : s.fieldsForm (field key a) = field key a :=
  forms_plain.field key a

@[simp] theorem fieldsForm_field? (value : Option α) : s.fieldsForm (field? key value) = field? key value := by
  rw [forms_plain.field?, Option.map_id_fun, id]

end Fields

end Registry

/-! ### Contents -/

/-- What a serializer makes of a map of documents. -/
def OrderedMap.form (s : Serializer) (m : OrderedMap Json) : OrderedMap Json :=
  ⟨s.fieldsForm m.entries, s.keys_fieldsForm m.distinct⟩

namespace Registry
open Json

theorem forms_documents (s : Serializer) : Forms s (OrderedMap.form s) where
  form m := by
    have entries (m : OrderedMap Json) : toJson m = .obj m.entries := congrArg Json.obj (List.map_id' m.entries)
    rw [entries, entries, s.form_obj]
    rfl
  there _ := rfl

/-- What a serializer makes of a content. -/
def ConfigurationContent.form (s : Serializer) (c : ConfigurationContent) : ConfigurationContent :=
  ⟨c.deviceContent.map (·.form s), c.modulesContent.map (·.form s), c.moduleContent.map (·.form s)⟩

theorem forms_content (s : Serializer) : Forms s (ConfigurationContent.form s) where
  form c := by
    have maps := forms_documents s
    refine (s.form_obj _).trans (congrArg Json.obj ?_)
    exact (s.fieldsForm_append).trans (by simp [maps.field?, ConfigurationContent.form])
  there _ := rfl

theorem forms_configuration (s : Serializer) :
    Forms s fun c : Configuration => c.withContent (c.content.form s) where
  form c := by
    have content := forms_content s
    refine (s.form_obj _).trans (congrArg Json.obj ?_)
    exact (s.fieldsForm_append).trans (by simp [content.field, Configuration.withContent])
  there _ := rfl

theorem toJson_injective {α : Type} [JsonForm α] [LawfulForm α] : Function.Injective (toJson : α → Json) :=
  Function.LeftInverse.injective LawfulForm.ofJson_toJson

namespace ConfigurationContent
variable {c : ConfigurationContent}

/-- The verbose serializer keeps every content. -/
theorem form_verbose (c : ConfigurationContent) : c.form .verbose = c :=
  toJson_injective ((forms_content .verbose).form c).symm

/-- The compact serializer keeps a content exactly if no field in it is `null`. -/
theorem form_compact_iff : c.form .compact = c ↔ ∀ p ∈ (toJson c).places, p.isNullField = false := by
  rw [← withoutNulls_eq_iff, ← toJson_injective.eq_iff, ← (forms_content .compact).form]
  rfl

end ConfigurationContent

/-! ### Payloads -/

/-- A serializer writes a value so that every serializer reads another one from the payload. -/
def Conveys {α : Type} [JsonForm α] (s : Serializer) (sent received : α) : Prop :=
  ∃ payload, writePayload s sent = .ok payload ∧ ∀ s' : Serializer, readPayload s' payload = .ok received

section Payloads
variable {depth : Nat} {content : ConfigurationContent} (s : Serializer)

/-- A plain value is conveyed as it is. -/
theorem conveys_plain {α : Type} [JsonForm α] [form : PlainForm α] [LawfulForm α] [RestoredForm α]
    (shallow : form.depth ≤ depthLimit) (a : α) : Conveys s a a :=
  ⟨_, writePayload_plain shallow s a, fun s' => readPayload_print shallow s' a⟩

theorem conveys_form {α : Type} [JsonForm α] [LawfulForm α] {change : α → α} (forms : Forms s change) {a : α}
    (document : IsDocument depthLimit (toJson a))
    (restored : Restored depthLimit (JsonForm.schema α) (toJson (change a))) : Conveys s a (change a) := by
  refine ⟨(toJson (change a)).print, ?_, fun s' => readPayload_of_restored restored s'⟩
  rw [writePayload, Serializer.serialize, s.prepare_document document, forms.form]

/-- A configuration is a document if its content is. -/
theorem isDocument_configuration {c : Configuration} (document : IsDocument depth (toJson c.content))
    (shallow : depth < depthLimit) : IsDocument depthLimit (toJson c) := by
  have plain (j : Json) (plain : Plain 2 j) : IsDocument 126 j := plain.document.mono (by decide)
  obtain ⟨fields, same, inside⟩ := c.forall_fields plain (document.mono (Nat.le_of_lt_succ shallow))
  rw [same]
  exact .obj inside

/-- A content is conveyed as what the serializer makes of it. -/
theorem conveys_content (document : IsDocument depth (toJson content)) (shallow : depth < depthLimit)
    (exact_ : Exact (toJson content)) : Conveys s content (content.form s) := by
  have forms := forms_content s
  refine conveys_form s forms (document.mono (Nat.le_of_lt shallow)) ?_
  refine (ConfigurationContent.restored ?_ ?_).mono (Nat.le_of_lt shallow)
  · rw [← forms.form]
    exact s.isDocument_form document
  · rw [← forms.form]
    exact s.exact_form exact_

theorem conveys_configuration (c : Configuration) (document : IsDocument depth (toJson c.content))
    (shallow : depth < depthLimit) (exact_ : Exact (toJson c.content)) :
    Conveys s c (c.withContent (c.content.form s)) := by
  have forms := forms_content s
  refine conveys_form s (forms_configuration s) (isDocument_configuration document shallow) ?_
  refine Configuration.restored ?_ ?_ shallow
  · exact (forms.form c.content) ▸ s.isDocument_form document
  · exact (forms.form c.content) ▸ s.exact_form exact_

end Payloads

end Registry
end DeviceTwin
