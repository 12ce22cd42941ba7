import DeviceTwin.Property.Dispatcher

/-!
Acknowledgements as they are read off the patches of a device. An envelope holds exactly the acknowledgement it was
made from (`decode_encode`), and a patch that acknowledges one property is read as its acknowledgement there
(`ack?_buildAck`) and as nothing under the name of any other property (`ack?_other`). What the convention itself reads
in such a patch is the acknowledgement with its value converted (`tryGetAck_buildAck`).
-/
namespace DeviceTwin

theorem checkName_ok_iff {name : String} : checkName name = .ok () ↔ name ≠ "" ∧ name ≠ markerKey := by
  unfold checkName
  by_cases empty : name = ""
  · simp [empty]
  · rw [if_neg empty]
    by_cases reserved : name = markerKey
    · simp [reserved]
    · simp [empty, reserved]

/-- A property that can be reported is not called like the marker. -/
theorem checkName_ne_marker {name : String} (checked : checkName name = .ok ()) : name ≠ markerKey := by
  intro same
  subst same
  cases checked

/-! ### Envelopes -/

theorem int64?_toInt (version : Int64) : Json.int64? (.int version.toInt) = some version := by
  have low := version.le_toInt
  have high := version.toInt_lt
  simp [Json.int64?, Json.int?, Json.int]
  omega

theorem code?_status (code : AckCode) : AckStyle.code? (.int code.status) = some code := by
  cases code <;> rfl

/-- An envelope holds the acknowledgement it was made from. -/
theorem decode_encode (style : AckStyle) (ack : Ack) : style.decode (style.encode ack) = .ok ack := by
  obtain ⟨value, code, version, description⟩ := ack
  cases style <;> cases description <;>
    simp [AckStyle.decode, AckStyle.encode, AckStyle.valueKey, AckStyle.codeKey, AckStyle.versionKey,
      AckStyle.descriptionKey, Assoc.find?, code?_status, int64?_toInt, Json.text?]

/-- An envelope of one style lacks the code that the other style wants. -/
theorem decode_encode_other {style other : AckStyle} (different : other ≠ style) (ack : Ack) :
    other.decode (style.encode ack) = .error (.envelopeInvalid other.codeKey) := by
  obtain ⟨value, code, version, description⟩ := ack
  cases style <;> cases other <;> cases description <;>
    simp [AckStyle.decode, AckStyle.encode, AckStyle.valueKey, AckStyle.codeKey, AckStyle.versionKey,
      AckStyle.descriptionKey, Assoc.find?] at different ⊢

/-- An envelope does not carry the marker, so it is not taken for a component. -/
theorem isComponent_encode (style : AckStyle) (ack : Ack) : isComponent (style.encode ack) = false := by
  obtain ⟨value, code, version, description⟩ := ack
  cases style <;> cases description <;>
    simp [isComponent, isMarked, AckStyle.encode, AckStyle.valueKey, AckStyle.codeKey, AckStyle.versionKey,
      AckStyle.descriptionKey, Assoc.find?, markerKey]

/-- An object with two fields, of which one is the marker, is no envelope. -/
theorem decode_component (style : AckStyle) (name : String) (value : Json) :
    (style.decode (.obj [(markerKey, .str markerValue), (name, value)])).toOption = none := by
  by_cases named : name = style.valueKey
  · subst named
    cases style <;> simp [AckStyle.decode, AckStyle.valueKey, AckStyle.codeKey, Assoc.find?, markerKey, Except.toOption]
  · have unmarked : markerKey ≠ style.valueKey := by cases style <;> decide
    simp [AckStyle.decode, Assoc.find?, named, unmarked, Except.toOption]

/-! ### Patches -/

/-- The fields of a component with one property. -/
theorem insert_marked {name : String} (unreserved : name ≠ markerKey) (value : Json) :
    (Patch.marked []).insert name value = [(markerKey, .str markerValue), (name, value)] := by
  simp [Patch.marked, Assoc.contains, Assoc.find?, Assoc.insert, unreserved.symm]

theorem entries_singleEntry_root (name : String) (value : Json) {component : Option String}
    (root : componentName? component = none) :
    (Convention.singleEntry name value component).entries = [(name, value)] := by
  simp [Convention.singleEntry, root, OrderedMap.insert, Patch.empty, OrderedMap.empty, Assoc.insert]

theorem entries_singleEntry_component {name : String} (unreserved : name ≠ markerKey) (value : Json)
    {component : Option String} {k : String} (named : componentName? component = some k) :
    (Convention.singleEntry name value component).entries =
      [(k, .obj [(markerKey, .str markerValue), (name, value)])] := by
  have nonempty := componentName?_ne_empty named
  simp [Convention.singleEntry, named, Patch.insertIn, nonempty, OrderedMap.insert, Patch.empty, OrderedMap.empty,
    Patch.component?, OrderedMap.get?, Assoc.find?, Assoc.insert, insert_marked unreserved]

/-- The only property of a patch is found there. -/
theorem property_singleEntry {name : String} (unreserved : name ≠ markerKey) (value : Json)
    {component component' : Option String} (same : componentName? component = componentName? component') :
    (Convention.singleEntry name value component).property name component' = some value := by
  cases named : componentName? component with
  | none =>
    have entries := entries_singleEntry_root name value named
    simp [Patch.property, unreserved, ← same, named, OrderedMap.get?, entries, Assoc.find?]
  | some k =>
    have entries := entries_singleEntry_component unreserved value named
    simp [Patch.property, unreserved, unreserved.symm, ← same, named, Patch.component?, OrderedMap.get?, entries,
      Assoc.find?, Json.fields?]

namespace Handler

/-- The acknowledgement of the property of a handler in a patch, if it holds one: the envelope under the name of the
    property, within an object that carries the marker when the property belongs to a component. -/
def ack? (c : Convention) (h : Handler) (patch : Patch) : Option Ack :=
  if (componentName? h.component).all (patch.components.contains ·) then
    (patch.property h.property h.component).bind fun envelope => (c.style.decode envelope).toOption
  else none

end Handler

open Handler

variable {c : Convention} {h other : Handler} {value : Datum} {code : AckCode} {version : Int64}
  {description component : Option String} {patch : Patch}

/-- What is needed for a patch that acknowledges a property, and what it holds. -/
theorem buildAck_ok {name : String} (built : c.buildAck name value code version description component = .ok patch) :
    checkName name = .ok () ∧ ∃ j, c.serializer.toWire value = .ok j ∧
      patch = Convention.singleEntry name (c.style.encode ⟨j, code, version, description⟩) component := by
  unfold Convention.buildAck at built
  cases checked : checkName name with
  | error e => simp [checked, bind, Except.bind] at built
  | ok u =>
    cases wire : c.serializer.toWire value with
    | error e => simp [checked, wire, bind, Except.bind] at built
    | ok j =>
      simp only [checked, wire, bind, Except.bind, pure, Except.pure, Except.ok.injEq] at built
      exact ⟨rfl, j, rfl, built.symm⟩

/-- A name and a value that are fit for it have a patch that acknowledges them. -/
theorem buildAck_of_ok {name : String} {j : Json} (checked : checkName name = .ok ())
    (wire : c.serializer.toWire value = .ok j) :
    c.buildAck name value code version description component =
      .ok (Convention.singleEntry name (c.style.encode ⟨j, code, version, description⟩) component) := by
  simp [Convention.buildAck, checked, wire, bind, Except.bind, pure, Except.pure]

/-- A patch that acknowledges a property is read as its acknowledgement, if the value in it converts. -/
theorem tryGetAck_buildAck (schema : Json.Schema) {name : String} {component' : Option String}
    (same : componentName? component = componentName? component')
    (built : c.buildAck name value code version description component = .ok patch) :
    ∃ j, c.serializer.toWire value = .ok j ∧
      c.tryGetAck schema patch name component' =
        (c.serializer.ofWire schema j).map fun value => some ⟨value, code, version, description⟩ := by
  obtain ⟨checked, j, wire, rfl⟩ := buildAck_ok built
  refine ⟨j, wire, ?_⟩
  simp only [Convention.tryGetAck, property_singleEntry (checkName_ne_marker checked) _ same, decode_encode, bind,
    Except.bind, pure, Except.pure]
  cases c.serializer.ofWire schema j <;> rfl

/-- A patch that acknowledges a property in one style is not read by a convention of the other style. -/
theorem tryGetAck_other (schema : Json.Schema) {name : String} {c' : Convention} (different : c'.style ≠ c.style)
    (built : c.buildAck name value code version description component = .ok patch) :
    c'.tryGetAck schema patch name component = .error (.envelopeInvalid c'.style.codeKey) := by
  obtain ⟨checked, j, _, rfl⟩ := buildAck_ok built
  simp only [Convention.tryGetAck, property_singleEntry (checkName_ne_marker checked) _ rfl,
    decode_encode_other different, bind, Except.bind]

theorem checkName_error_kind {name : String} {e : TwinError} (failed : checkName name = .error e) :
    e.kind = .invalidArgument := by
  unfold checkName at failed
  split at failed
  · cases failed; rfl
  · split at failed
    · cases failed; rfl
    · cases failed

theorem toWire_error_kind {s : Serializer} {e : TwinError} (failed : s.toWire value = .error e) :
    e.kind = .serialization ∨ e.kind = .deserialization := by
  simp only [Serializer.toWire, Serializer.serialize, Serializer.deserialize, bind, Except.bind] at failed
  cases prepared : s.prepare value with
  | error cause =>
    simp only [prepared] at failed
    cases failed
    exact .inl rfl
  | ok j =>
    simp only [prepared] at failed
    cases read : Json.read .document j.print with
    | error cause =>
      simp only [read] at failed
      cases failed
      exact .inr rfl
    | ok k => simp [read] at failed

/-- A patch is never refused for the state of an exchange. -/
theorem buildAck_error_kind {name : String} {e : TwinError}
    (failed : c.buildAck name value code version description component = .error e) : e.kind ≠ .invalidTransition := by
  unfold Convention.buildAck at failed
  cases checked : checkName name with
  | error cause =>
    simp only [checked, bind, Except.bind, Except.error.injEq] at failed
    subst failed
    simp [checkName_error_kind checked]
  | ok u =>
    cases wire : c.serializer.toWire value with
    | error cause =>
      simp only [checked, wire, bind, Except.bind, Except.error.injEq] at failed
      subst failed
      rcases toWire_error_kind wire with kind | kind <;> simp [kind]
    | ok j => simp [checked, wire, bind, Except.bind, pure, Except.pure] at failed

/-- An entry that is an envelope is read as its acknowledgement under its own name. -/
theorem ack?_singleEntry (ack : Ack) (unreserved : h.property ≠ markerKey)
    (same : componentName? component = componentName? h.component) :
    h.ack? c (Convention.singleEntry h.property (c.style.encode ack) component) = some ack := by
  cases named : componentName? component with
  | none =>
    have entries := entries_singleEntry_root h.property (c.style.encode ack) named
    simp [Handler.ack?, ← same, named, Patch.property, unreserved, OrderedMap.get?, entries, Assoc.find?, decode_encode,
      Except.toOption]
  | some k =>
    have entries := entries_singleEntry_component unreserved (c.style.encode ack) named
    have marked : isComponent (.obj [(markerKey, .str markerValue), (h.property, c.style.encode ack)]) = true := by
      simp [isComponent, isMarked, Assoc.find?]
    simp [Handler.ack?, ← same, named, Patch.property, unreserved, unreserved.symm, Patch.component?, OrderedMap.get?,
      entries, Assoc.find?, Patch.components, marked, Json.fields?, decode_encode, Except.toOption]

/-- A patch that acknowledges a property is read as its acknowledgement. -/
theorem ack?_buildAck (same : componentName? component = componentName? h.component)
    (built : c.buildAck h.property value code version description component = .ok patch) :
    ∃ j, c.serializer.toWire value = .ok j ∧ h.ack? c patch = some ⟨j, code, version, description⟩ := by
  obtain ⟨checked, j, wire, rfl⟩ := buildAck_ok built
  exact ⟨j, wire, ack?_singleEntry _ (checkName_ne_marker checked) same⟩

/-- A patch that acknowledges a property is not read as an acknowledgement of another one. -/
theorem ack?_other (same : componentName? component = componentName? h.component)
    (different : ¬ (other.property = h.property ∧ componentName? other.component = componentName? h.component))
    (built : c.buildAck h.property value code version description component = .ok patch) :
    other.ack? c patch = none := by
  obtain ⟨checked, j, _, rfl⟩ := buildAck_ok built
  have unreserved := checkName_ne_marker checked
  generalize envelopeIs : c.style.encode ⟨j, code, version, description⟩ = envelope
  have unmarked : isComponent envelope = false := envelopeIs ▸ isComponent_encode _ _
  rw [← same] at different
  cases named : componentName? component with
  | none =>
    have entries := entries_singleEntry_root h.property envelope named
    cases otherNamed : componentName? other.component with
    | none =>
      have names : h.property ≠ other.property := fun equal => different ⟨equal.symm, by rw [otherNamed, named]⟩
      simp [Handler.ack?, otherNamed, Patch.property, OrderedMap.get?, entries, Assoc.find?, names]
    | some k => simp [Handler.ack?, otherNamed, Patch.components, entries, unmarked]
  | some k =>
    have entries := entries_singleEntry_component unreserved envelope named
    cases otherNamed : componentName? other.component with
    | none =>
      have noEnvelope := decode_component c.style h.property envelope
      by_cases here : k = other.property
      · simp [Handler.ack?, otherNamed, Patch.property, OrderedMap.get?, entries, Assoc.find?, here, noEnvelope]
      · simp [Handler.ack?, otherNamed, Patch.property, OrderedMap.get?, entries, Assoc.find?, here]
    | some k' =>
      by_cases here : k' = k
      · subst here
        have names : h.property ≠ other.property := fun equal => different ⟨equal.symm, by rw [otherNamed, named]⟩
        by_cases marker : other.property = markerKey
        · simp [Handler.ack?, Patch.property, marker]
        · simp [Handler.ack?, otherNamed, Patch.property, marker, Ne.symm marker, Patch.component?, OrderedMap.get?,
            entries, Assoc.find?, Json.fields?, names]
      · simp [Handler.ack?, otherNamed, Patch.components, entries, List.filter_cons, here]

end DeviceTwin
