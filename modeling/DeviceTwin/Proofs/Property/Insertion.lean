import DeviceTwin.Proofs.Property.Nesting

/-!
What a property that is set leaves alone. A patch is written under one key, and in a component at one name
(`Patch.WritesOnly`): whatever is found through another key or beside the name is found unchanged, the keys and the
fields of the component keep their order, and what is new goes to the end (`Patch.insertIn_writesOnly`).
-/
namespace DeviceTwin.Patch

variable {p q : Patch} {component name : String} {value : Json} {fields : Fields}

/-! ### The key -/

/-- The key through which a property is found: the name of its component, or its own at the root interface. -/
def keyOf (name : String) (component : Option String) : String :=
  (componentName? component).getD name

theorem keyOf_empty (name : String) : keyOf name (some "") = name := by
  simp [keyOf, componentName?, Option.filter]

theorem keyOf_named (named : component ≠ "") (name : String) : keyOf name (some component) = component := by
  simp [keyOf, componentName?, Option.filter, named]

/-- What is found of a property depends on what its key holds, and on nothing else. -/
theorem property_congr {n : String} {c : Option String} (same : q.get? (keyOf n c) = p.get? (keyOf n c)) :
    q.property n c = p.property n c := by
  by_cases reserved : n = markerKey
  · simp [property, reserved]
  · rw [property, property, if_neg reserved, if_neg reserved]
    cases addressed : componentName? c with
    | none =>
      rw [keyOf, addressed] at same
      exact same
    | some component =>
      rw [keyOf, addressed] at same
      simp only [component?]
      exact congrArg (fun j => (j.bind Json.fields?).bind (Assoc.find? n)) same

/-- A patch in which a property is set is the patch with one key set. -/
theorem insertIn_eq_insert (p : Patch) (component name : String) (value : Json) :
    ∃ j, p.insertIn component name value = p.insert (keyOf name (some component)) j := by
  by_cases root : component = ""
  · subst root
    exact ⟨value, by rw [insertIn, if_pos rfl, keyOf_empty]⟩
  · exact ⟨.obj (p.groupWith component name value), by rw [keyOf_named root, insertIn, if_neg root, groupWith]⟩

/-! ### The fields of a component -/

/-- Fields are those that were there with one name set: the names keep their order, a marker that was missing goes to
    the end and a new name behind it, and beside the name the fields are the same. -/
structure SetsField (fields fields' : Fields) (name : String) : Prop where
  order : fields'.keys = fields.keys ++ (if markerKey ∈ fields.keys then [] else [markerKey]) ++
    (if name ∈ fields.keys ∨ name = markerKey then [] else [name])
  kept : fields'.filter (·.1 ≠ name) = fields.filter (·.1 ≠ name) ++
    (if markerKey ∈ fields.keys ∨ name = markerKey then [] else [(markerKey, .str markerValue)])

theorem marked_eq (fields : Fields) :
    marked fields = fields ++ (if markerKey ∈ fields.keys then [] else [(markerKey, .str markerValue)]) := by
  unfold marked Assoc.contains
  by_cases there : markerKey ∈ fields.keys
  · rw [if_pos ((Assoc.isSome_find? markerKey fields).mpr there), if_pos there, List.append_nil]
  · rw [if_neg (fun found => there ((Assoc.isSome_find? markerKey fields).mp found)), if_neg there,
      Assoc.insert_new there]

theorem setsField_insert_marked (fields : Fields) (name : String) (value : Json) :
    SetsField fields ((marked fields).insert name value) name := by
  by_cases there : markerKey ∈ fields.keys
  · have same : marked fields = fields := by rw [marked_eq, if_pos there, List.append_nil]
    constructor
    · rw [same, Assoc.keys_insert]
      by_cases known : name ∈ fields.keys
      · simp [known, there]
      · have other : name ≠ markerKey := fun reserved => known (reserved ▸ there)
        simp [known, there, other]
    · rw [same, Assoc.filter_insert]
      simp [there]
  · have added : marked fields = fields ++ [(markerKey, .str markerValue)] := by rw [marked_eq, if_neg there]
    have names : (marked fields).keys = fields.keys ++ [markerKey] := by
      rw [added, Assoc.keys, List.map_append]
      rfl
    constructor
    · rw [Assoc.keys_insert, names]
      by_cases known : name ∈ fields.keys
      · simp [known, there]
      · by_cases reserved : name = markerKey
        · simp [reserved, there]
        · simp [known, reserved, there]
    · rw [Assoc.filter_insert, added, List.filter_append]
      by_cases reserved : name = markerKey
      · simp [reserved]
      · have other : markerKey ≠ name := Ne.symm reserved
        simp [reserved, there, other]

/-- Beside the marker and the name, a field holds what it has held. -/
theorem find?_groupWith {n : String} (other : n ≠ name) (plain : n ≠ markerKey) (p : Patch) (component : String)
    (value : Json) :
    Assoc.find? n (p.groupWith component name value) = (p.component? component).bind (Assoc.find? n) := by
  rw [groupWith, Assoc.find?_insert, if_neg (Ne.symm other), marked]
  have unmarked : Assoc.find? n ((p.component? component).getD []) = (p.component? component).bind (Assoc.find? n) := by
    cases p.component? component <;> rfl
  split
  · exact unmarked
  · rw [Assoc.find?_insert, if_neg (Ne.symm plain), unmarked]

/-! ### The patch -/

/-- A patch differs from another one at most in a property: what is found through another key is the same, and so are
    the other properties of its component. The keys keep their order with a new one at the end, and a component that was
    there keeps its fields. -/
structure WritesOnly (p q : Patch) (component name : String) : Prop where
  elsewhere : ∀ n c, keyOf n c ≠ keyOf name (some component) → q.property n c = p.property n c
  siblings : component ≠ "" → ∀ n, n ≠ name → n ≠ markerKey →
    q.property n (some component) = p.property n (some component)
  order : q.entries.keys = p.entries.keys ++
    (if keyOf name (some component) ∈ p.entries.keys then [] else [keyOf name (some component)])
  kept : q.entries.filter (·.1 ≠ keyOf name (some component)) =
    p.entries.filter (·.1 ≠ keyOf name (some component))
  group : component ≠ "" → ∀ fields, p.component? component = some fields →
    ∃ fields', q.component? component = some fields' ∧ SetsField fields fields' name

/-- Setting a property of a component, or of the root interface, changes nothing but this property. -/
theorem insertIn_writesOnly (p : Patch) (component name : String) (value : Json) :
    p.WritesOnly (p.insertIn component name value) component name := by
  obtain ⟨j, written⟩ := insertIn_eq_insert p component name value
  refine ⟨?_, ?_, ?_, ?_, ?_⟩
  · intro n c other
    apply property_congr
    rw [written]
    exact (Assoc.find?_insert _ _ _ _).trans (if_neg (Ne.symm other))
  · intro named n other plain
    have addressed : componentName? (some component) = some component := by simp [componentName?, named]
    rw [property, property, if_neg plain, if_neg plain, addressed]
    simp only [component?, get?_insertIn named, if_true, Option.bind_some, Json.fields?]
    exact find?_groupWith other plain p component value
  · rw [written]
    refine (Assoc.keys_insert _ _ _).trans ?_
    split
    · rw [List.append_nil]
    · rfl
  · rw [written]
    exact Assoc.filter_insert _ _ _
  · intro named fields there
    refine ⟨p.groupWith component name value, ?_, ?_⟩
    · rw [component?, get?_insertIn named, if_pos rfl]
      rfl
    · rw [groupWith, there, Option.getD_some]
      exact setsField_insert_marked fields name value

/-- A marker that was missing stands between the fields that were there and the new one. -/
example :
    ((insertIn "pump" "speed" .null ⟨[("pump", .obj [("vendor", .null)])], by decide⟩).component? "pump").map
      Assoc.keys = some ["vendor", markerKey, "speed"] := by decide

end DeviceTwin.Patch
