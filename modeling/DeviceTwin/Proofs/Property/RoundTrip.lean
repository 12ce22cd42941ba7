import DeviceTwin.Proofs.Json.Payload
import DeviceTwin.Proofs.Property.Envelope

/-!
Acknowledgements from one side to the other. The patch of an acknowledgement is read as the acknowledgement as long as
it stays in memory (`Convention.tryGetAck_ownPatch`). In a payload the serializer writes the envelope once more, as a
part of the patch: the compact one leaves out the value when it is `null`, and what is left is no envelope
(`Convention.tryGetAck_received`).
-/
namespace DeviceTwin
open Json (Schema Typed IsDocument Exact depthLimit leastInt greatestInt)

variable {depth : Nat} {s : Serializer}

/-! ### Envelopes -/

namespace AckStyle

theorem isDocument_encode (style : AckStyle) {ack : Ack} (document : IsDocument depth ack.value) :
    IsDocument (depth + 1) (style.encode ack) := by
  have status : leastInt ≤ ack.code.status ∧ (ack.code.status : Int) ≤ greatestInt := by
    cases ack.code <;> decide
  have code : IsDocument depth (.int ack.code.status) := .num depth status
  have version : IsDocument depth (.int ack.version.toInt) :=
    .num depth (IntegerType.toInt_within .i64 ack.version)
  refine .obj ?_
  cases ack.description with
  | none => simpa using ⟨document, code, version⟩
  | some d => simpa using ⟨document, code, version, IsDocument.str depth d⟩

theorem exact_encode (style : AckStyle) {ack : Ack} (exact_ : Exact ack.value) : Exact (style.encode ack) := by
  have code : Exact (.int ack.code.status) := .int _
  have version : Exact (.int ack.version.toInt) := .int _
  refine .obj ?_ ?_
  · cases style <;> cases ack.description <;>
      simp [Assoc.keys, valueKey, codeKey, versionKey, descriptionKey]
  · cases ack.description with
    | none => simpa using ⟨exact_, code, version⟩
    | some d => simpa using ⟨exact_, code, version, Exact.str d⟩

/-- An envelope that a serializer writes holds the acknowledgement, unless its value is left out. -/
theorem decode_form (style : AckStyle) (ack : Ack) :
    style.decode (s.form (style.encode ack)) =
      if s.keeps ack.value then .ok { ack with value := s.form ack.value }
      else .error (.envelopeWithout style.valueKey) := by
  obtain ⟨value, code, version, description⟩ := ack
  have codes (n : Int) : s.keeps (.int n) = true := Serializer.keeps_of_isNull rfl
  have texts (d : String) : s.keeps (.str d) = true := Serializer.keeps_of_isNull rfl
  have ints (n : Int) : s.form (.int n) = .int n := s.form_num _
  cases kept : s.keeps value <;> cases style <;> cases description <;>
    simp [encode, decode, Serializer.form_obj, kept, codes, texts, ints, valueKey, codeKey, versionKey, descriptionKey,
      Assoc.find?, code?_status, int64?_toInt, Json.text?]

end AckStyle

/-! ### Payloads of patches -/

namespace Convention
variable {name : String} {value : Json} {component : Option String}

theorem isDocument_singleEntry (unreserved : name ≠ markerKey) (document : IsDocument depth value)
    (component : Option String) : IsDocument (depth + 2) (singleEntry name value component).toJson := by
  cases named : componentName? component with
  | none =>
    rw [Patch.toJson, entries_singleEntry_root name value named]
    exact .obj (by simpa using document.mono (Nat.le_succ depth))
  | some k =>
    rw [Patch.toJson, entries_singleEntry_component unreserved value named]
    have inside : IsDocument (depth + 1) (.obj [(markerKey, .str markerValue), (name, value)]) :=
      .obj (by simpa using ⟨.str depth markerValue, document⟩)
    exact .obj (by simpa using inside)

theorem exact_singleEntry (unreserved : name ≠ markerKey) (exact_ : Exact value) (component : Option String) :
    Exact (singleEntry name value component).toJson := by
  refine .obj (singleEntry name value component).distinct ?_
  cases named : componentName? component with
  | none =>
    rw [entries_singleEntry_root name value named]
    simpa using exact_
  | some k =>
    rw [entries_singleEntry_component unreserved value named]
    have inside : Exact (.obj [(markerKey, .str markerValue), (name, value)]) :=
      .obj (by simpa [Assoc.keys] using unreserved.symm) (by simpa using ⟨.str markerValue, exact_⟩)
    simpa using inside

/-- A serializer writes an entry that is there as an entry. -/
theorem form_singleEntry (unreserved : name ≠ markerKey) (there : value.isNull = false) (component : Option String) :
    s.form (singleEntry name value component).toJson = (singleEntry name (s.form value) component).toJson := by
  have kept : s.keeps value = true := Serializer.keeps_of_isNull there
  have marker : s.keeps (.str markerValue) = true := Serializer.keeps_of_isNull rfl
  have group (fields : Fields) : s.keeps (.obj fields) = true := Serializer.keeps_of_isNull rfl
  cases named : componentName? component with
  | none =>
    simp [Patch.toJson, entries_singleEntry_root name _ named, s.form_obj, kept]
  | some k =>
    simp [Patch.toJson, entries_singleEntry_component unreserved _ named, s.form_obj, kept, marker, group]

/-- What a payload of a patch holds is a patch again. -/
theorem deserializePatch_form (c : Convention) {p q : Patch} (document : IsDocument depthLimit p.toJson)
    (exact_ : Exact p.toJson) (formed : c.serializer.form p.toJson = q.toJson) :
    ∃ payload, c.serializePatch p = .ok payload ∧ c.deserializePatch payload = .ok q := by
  obtain ⟨j, reading, same⟩ := Json.read_print (c.serializer.isDocument_form document)
  obtain rfl := same (c.serializer.exact_form exact_)
  refine ⟨(c.serializer.form p.toJson).print, ?_, ?_⟩
  · simp [serializePatch, Serializer.serialize, c.serializer.prepare_document document]
  · rw [formed, Patch.toJson] at reading ⊢
    simp [deserializePatch, Serializer.deserialize, Json.read_mapping, reading, Patch.ofJson,
      OrderedMap.ofEntries_entries, bind, Except.bind]

/-! ### Acknowledgements of typed values -/

variable {schema : Schema} {j : Json}

/-- The patch of a value of a type is read as the acknowledgement of this value. -/
theorem tryGetAck_typed (c : Convention) (checked : checkName name = .ok ()) (typed : Typed schema j)
    (document : IsDocument depthLimit j) (code : AckCode) (version : Int64) (description component : Option String) :
    ∃ patch, c.buildAck name (.value j) code version description component = .ok patch ∧
      c.tryGetAck schema patch name component = .ok (some ⟨j, code, version, description⟩) := by
  have wire := c.serializer.toWire_exact document typed.exact
  refine ⟨_, buildAck_of_ok checked wire, ?_⟩
  obtain ⟨j', wire', reads⟩ := tryGetAck_buildAck schema rfl (buildAck_of_ok checked wire)
  rw [wire] at wire'
  cases wire'
  rw [reads, c.serializer.ofWire_typed typed document]
  rfl

/-- What is read of a received acknowledgement of a value of a type. -/
theorem tryGetAck_received_typed (c : Convention) (checked : checkName name = .ok ()) (typed : Typed schema j)
    (document : IsDocument depth j) (shallow : depth + 3 ≤ depthLimit) (code : AckCode) (version : Int64)
    (description component : Option String) :
    ∃ patch payload received, c.buildAck name (.value j) code version description component = .ok patch ∧
      c.serializePatch patch = .ok payload ∧ c.deserializePatch payload = .ok received ∧
      c.tryGetAck schema received name component =
        if c.serializer.keeps j then .ok (some ⟨j, code, version, description⟩)
        else .error (.envelopeWithout c.style.valueKey) := by
  have unreserved := checkName_ne_marker checked
  have deep : IsDocument depthLimit j := document.mono (by omega)
  have wire := c.serializer.toWire_exact deep typed.exact
  generalize ackIs : (⟨c.serializer.form j, code, version, description⟩ : Ack) = ack
  have value : ack.value = c.serializer.form j := by rw [← ackIs]
  have written : IsDocument depth ack.value := value ▸ c.serializer.isDocument_form document
  have exact_ : Exact ack.value := value ▸ c.serializer.exact_form typed.exact
  have whole := isDocument_singleEntry unreserved (c.style.isDocument_encode written) component
  -- The envelope holds what the serializer has made of the value. Written once more, the value is the same, if it is
  -- kept at all.
  obtain ⟨payload, serialized, received⟩ := deserializePatch_form c (whole.mono (by omega))
    (exact_singleEntry unreserved (c.style.exact_encode exact_) component)
    (form_singleEntry unreserved rfl component)
  refine ⟨_, payload, _, buildAck_of_ok checked wire, ackIs ▸ serialized, received, ?_⟩
  subst ackIs
  have reads := c.serializer.ofWire_typed typed deep
  simp only [tryGetAck, property_singleEntry unreserved _ rfl, c.style.decode_form, c.serializer.form_form deep,
    Serializer.keeps_form]
  cases c.serializer.keeps j with
  | true => simp [reads, bind, Except.bind, pure, Except.pure]
  | false => rfl

/-- An acknowledgement is read from its own patch, with the value itself: no other value of the type is written so. A
    convention of the other style takes the patch for a faulty one. -/
theorem tryGetAck_ownPatch (c : Convention) (name : String) (named : name ≠ "") (unreserved : name ≠ markerKey)
    (t : PayloadType) (x : t.Carrier) (code : AckCode) (version : Int64) (description component : Option String) :
    ∃ patch, c.buildAck name (.value (t.json x)) code version description component = .ok patch ∧
      c.tryGetAck t.schema patch name component = .ok (some ⟨t.json x, code, version, description⟩) ∧
      (∀ y, t.json y = t.json x → y = x) ∧
      ∀ c' : Convention, c'.style ≠ c.style →
        ∃ e, c'.tryGetAck t.schema patch name component = .error e ∧ e.kind = .deserialization := by
  have checked : checkName name = .ok () := by simp [checkName, named, unreserved]
  have document : IsDocument depthLimit (t.json x) := t.isDocument_json 126 x
  obtain ⟨patch, built, reads⟩ := tryGetAck_typed c checked (t.typed_json x) document code version description component
  refine ⟨patch, built, reads, fun y same => t.json_injective same, fun c' other => ?_⟩
  exact ⟨_, tryGetAck_other t.schema other built, rfl⟩

/-- A range without a label, acknowledged in a component. -/
theorem tryGetAck_ownPatch_humidity :
    "humidity" ≠ "" ∧ "humidity" ≠ markerKey ∧
      ∃ patch, default.buildAck "humidity" (.value (PayloadType.json .humidityRange ⟨30, 60, none⟩)) .completed (-3)
          (some "adjusted") (some "sensor") = .ok patch ∧
        default.tryGetAck Thermostat.humidityRange patch "humidity" (some "sensor") =
          .ok (some ⟨PayloadType.json .humidityRange ⟨30, 60, none⟩, .completed, -3, some "adjusted"⟩) ∧
        ∃ e, tryGetAck ⟨.compact, .structured⟩ Thermostat.humidityRange patch "humidity" (some "sensor") = .error e ∧
          e.kind = .deserialization := by
  obtain ⟨patch, built, reads, _, others⟩ := tryGetAck_ownPatch default "humidity" (by decide) (by decide)
    .humidityRange ⟨30, 60, none⟩ .completed (-3) (some "adjusted") (some "sensor")
  exact ⟨by decide, by decide, patch, built, reads, others ⟨.compact, .structured⟩ (by decide)⟩

/-- An acknowledgement is read from the payload of its patch, with the value itself, unless the compact serializer has
    left out the value: that of the value without content, or of an option that is not set, is not read. -/
theorem tryGetAck_received (c : Convention) (name : String) (named : name ≠ "") (unreserved : name ≠ markerKey)
    (t : PayloadType) (x : t.Carrier) (code : AckCode) (version : Int64) (description component : Option String) :
    ∃ patch payload received, c.buildAck name (.value (t.json x)) code version description component = .ok patch ∧
      c.serializePatch patch = .ok payload ∧ c.deserializePatch payload = .ok received ∧
      c.tryGetAck t.schema received name component =
        (if c.serializer = .compact ∧ t.isUnset x then .error (.envelopeWithout c.style.valueKey)
        else .ok (some ⟨t.json x, code, version, description⟩)) ∧
      ∀ y, t.json y = t.json x → y = x := by
  have checked : checkName name = .ok () := by simp [checkName, named, unreserved]
  obtain ⟨patch, payload, received, built, serialized, deserialized, reads⟩ :=
    tryGetAck_received_typed c checked (t.typed_json x) (t.isDocument_json 0 x) (by decide) code version description
      component
  refine ⟨patch, payload, received, built, serialized, deserialized, ?_, fun y same => t.json_injective same⟩
  have kept : c.serializer.keeps (t.json x) = true ↔ ¬ (c.serializer = .compact ∧ t.isUnset x = true) := by
    rw [← t.isNull_json]
    cases c.serializer <;> simp [Serializer.keeps]
  simp only [reads, kept, ite_not]

/-- An option that is not set is lost in a compact payload and kept in a verbose one. -/
theorem tryGetAck_received_option :
    "mode" ≠ "" ∧ "mode" ≠ markerKey ∧
      (∃ patch payload received,
        default.buildAck "mode" (.value (PayloadType.json (.optional (.integer .u8)) none)) .completed 7 none
          (some "fan") = .ok patch ∧
        default.serializePatch patch = .ok payload ∧ default.deserializePatch payload = .ok received ∧
        default.tryGetAck (.optional .u8) received "mode" (some "fan") = .error (.envelopeWithout "value")) ∧
      ∃ patch payload received,
        buildAck ⟨.verbose, .structured⟩ "mode" (.value (PayloadType.json (.optional (.integer .u8)) none)) .completed 7
          none (some "fan") = .ok patch ∧
        serializePatch ⟨.verbose, .structured⟩ patch = .ok payload ∧
        deserializePatch ⟨.verbose, .structured⟩ payload = .ok received ∧
        tryGetAck ⟨.verbose, .structured⟩ (.optional .u8) received "mode" (some "fan") =
          .ok (some ⟨.null, .completed, 7, none⟩) := by
  obtain ⟨patch, payload, received, built, serialized, deserialized, reads, _⟩ := tryGetAck_received default
    "mode" (by decide) (by decide) (.optional (.integer .u8)) none .completed 7 none (some "fan")
  obtain ⟨patch', payload', received', built', serialized', deserialized', reads', _⟩ :=
    tryGetAck_received ⟨.verbose, .structured⟩ "mode" (by decide) (by decide) (.optional (.integer .u8)) none
      .completed 7 none (some "fan")
  exact ⟨by decide, by decide, ⟨patch, payload, received, built, serialized, deserialized, reads⟩,
    patch', payload', received', built', serialized', deserialized', reads'⟩

/-- The value without content can be acknowledged, but what the compact serializer writes is not read. -/
theorem unit_unreadable :
    ∃ patch received, default.buildAck "a" (.value (PayloadType.json .unit ())) .completed 3 none none = .ok patch ∧
      default.serializePatch patch = .ok "\x7b\"a\":\x7b\"ac\":200,\"av\":3\x7d\x7d" ∧
      default.deserializePatch "\x7b\"a\":\x7b\"ac\":200,\"av\":3\x7d\x7d" = .ok received ∧
      default.tryGetAck (PayloadType.schema .unit) received "a" none = .error (.envelopeWithout "value") := by
  have checked : checkName "a" = .ok () := rfl
  have written : (default.buildAck "a" (.value .null) .completed 3 none none >>= default.serializePatch).toOption =
      some "\x7b\"a\":\x7b\"ac\":200,\"av\":3\x7d\x7d" := by
    decide +kernel
  obtain ⟨patch, payload, received, built, serialized, deserialized, reads⟩ :=
    tryGetAck_received_typed default checked .unit (.null 0) (by decide) .completed 3 none none
  simp only [built, serialized, bind, Except.bind, Except.toOption, Option.some.injEq] at written
  subst written
  exact ⟨patch, received, built, serialized, deserialized, reads⟩

end Convention
end DeviceTwin
