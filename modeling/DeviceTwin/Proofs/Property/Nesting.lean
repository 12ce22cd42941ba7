import DeviceTwin.Proofs.Property.Merge

/-!
Properties of components. A property that is set in a component is found there, whatever the key has held before
(`Patch.property_insertIn`). The object that holds it is a component from then on, unless there was an object with some
other marker, which keeps it (`Patch.insertIn_nested`).
-/
namespace DeviceTwin.Patch

variable {p : Patch} {component name : String} {value : Json}

/-! ### The object of a component -/

/-- A marker that is there is kept. -/
theorem find?_marked (fields : Fields) :
    Assoc.find? markerKey (marked fields) = some ((Assoc.find? markerKey fields).getD (.str markerValue)) := by
  unfold marked
  cases found : Assoc.find? markerKey fields with
  | none => simp [Assoc.contains, found, Assoc.find?_insert]
  | some marker => simp [Assoc.contains, found]

/-- The object of a component after one of its properties is set. -/
def groupWith (p : Patch) (component name : String) (value : Json) : Fields :=
  (marked ((p.component? component).getD [])).insert name value

theorem get?_insertIn (named : component ≠ "") (key : String) :
    (p.insertIn component name value).get? key =
      if component = key then some (.obj (p.groupWith component name value)) else p.get? key := by
  rw [insertIn, if_neg named]
  exact Assoc.find?_insert component key _ p.entries

/-- A property that is set in a component is found there. -/
theorem property_insertIn (named : component ≠ "") (unreserved : name ≠ markerKey) (p : Patch) (value : Json) :
    (p.insertIn component name value).property name (some component) = some value := by
  have addressed : componentName? (some component) = some component := by simp [componentName?, named]
  rw [property, if_neg unreserved, addressed]
  simp [component?, get?_insertIn named, Json.fields?, groupWith, Assoc.find?_insert]

/-- The object under a key has no other marker, if there is one. -/
def Welcomes (p : Patch) (component : String) : Prop :=
  ∀ fields marker, p.component? component = some fields → Assoc.find? markerKey fields = some marker →
    marker = .str markerValue

theorem isMarked_groupWith (unreserved : name ≠ markerKey) (p : Patch) (component : String) (value : Json) :
    isMarked (p.groupWith component name value) = true ↔ p.Welcomes component := by
  rw [isMarked_iff, groupWith, Assoc.find?_insert, if_neg unreserved, find?_marked, Option.some.injEq]
  constructor
  · intro kept fields marker there found
    rwa [there, Option.getD_some, found, Option.getD_some] at kept
  · intro welcomes
    cases there : p.component? component with
    | none => rfl
    | some fields =>
      cases found : Assoc.find? markerKey fields with
      | none => simp [found]
      | some marker => simp [found, welcomes fields marker there found]

/-! ### Nested properties -/

/-- A component holds a property: it is listed among the components and not among the properties of the root
    interface, and the property is found in it. -/
structure Nested (q : Patch) (component name : String) (value : Json) : Prop where
  listed : component ∈ q.components
  unlisted : component ∉ q.rootProperties.map (·.1)
  found : q.property name (some component) = some value

theorem mem_rootProperties_iff {key : String} :
    key ∈ p.rootProperties.map (·.1) ↔ ∃ j, p.get? key = some j ∧ isComponent j = false := by
  simp only [rootProperties, List.mem_map, List.mem_filter, Bool.not_eq_true']
  constructor
  · rintro ⟨⟨_, j⟩, ⟨member, plain⟩, rfl⟩
    exact ⟨j, mem_entries_iff.mp member, plain⟩
  · rintro ⟨j, found, plain⟩
    exact ⟨(key, j), ⟨mem_entries_iff.mpr found, plain⟩, rfl⟩

/-- A property that is set in a component is found there in any case. It is nested in a component exactly if the key did
    not hold an object with some other marker. -/
theorem insertIn_nested (p : Patch) (component name : String) (value : Json) (named : component ≠ "")
    (unreserved : name ≠ markerKey) :
    (p.insertIn component name value).property name (some component) = some value ∧
      ((p.insertIn component name value).Nested component name value ↔ p.Welcomes component) := by
  have found := property_insertIn named unreserved p value
  have here : (p.insertIn component name value).get? component = some (.obj (p.groupWith component name value)) := by
    rw [get?_insertIn named, if_pos rfl]
  refine ⟨found, ?_⟩
  rw [← isMarked_groupWith unreserved p component value, ← isComponent_obj]
  constructor
  · intro nested
    obtain ⟨j, there, isComponent_⟩ := mem_components_iff.mp nested.listed
    rw [here] at there
    cases there
    exact isComponent_
  · intro isComponent_
    refine ⟨mem_components_iff.mpr ⟨_, here, isComponent_⟩, ?_, found⟩
    intro listed
    obtain ⟨j, there, plain⟩ := mem_rootProperties_iff.mp listed
    rw [here] at there
    cases there
    rw [isComponent_] at plain
    cases plain

/-- A property of the root interface that is an object without a marker becomes a component. -/
theorem insertIn_nested_unmarked :
    "pump" ≠ "" ∧ "speed" ≠ markerKey ∧
      (insertIn "pump" "speed" (.int 3) ⟨[("pump", .obj [("vendor", .str "acme")])], by decide⟩).Nested "pump" "speed"
        (.int 3) := by
  refine ⟨by decide, by decide, (insertIn_nested _ "pump" "speed" (.int 3) (by decide) (by decide)).2.mpr ?_⟩
  intro fields marker there found
  cases there
  cases found

/-- An object with some other marker does not become one: the property is found in it, but it is listed as a property
    of the root interface. -/
theorem insertIn_not_nested :
    ¬ (insertIn "pump" "speed" (.int 3) ⟨[("pump", .obj [(markerKey, .str "x")])], by decide⟩).Nested "pump" "speed"
        (.int 3) := by
  intro nested
  cases nested.listed

end DeviceTwin.Patch
