import DeviceTwin.Proofs.Json.Typed

/-!
The places of a document: what stands in it at the end of which way, in the order of the text. No two documents have
the same places (`places_injective`). Without its null fields a document has the same places in the same order, except
those of the null fields (`places_withoutNulls`). So the compact serializer writes what the verbose one writes exactly
where there is no null field, and both read their own texts as what was written (`Serializer.roundTrip_document`).
-/
namespace DeviceTwin.Json

/-- Induction over a value, through the items of arrays and the fields of objects. -/
@[elab_as_elim]
theorem induction {motive : Json → Prop} (null : motive .null) (bool : ∀ b, motive (.bool b))
    (num : ∀ n, motive (.num n)) (str : ∀ s, motive (.str s))
    (arr : ∀ items : List Json, (∀ j ∈ items, motive j) → motive (.arr items))
    (obj : ∀ fields : List (String × Json), (∀ f ∈ fields, motive f.2) → motive (.obj fields)) (j : Json) :
    motive j :=
  @Json.rec motive (fun items => ∀ j ∈ items, motive j) (fun fields => ∀ f ∈ fields, motive f.2)
    (fun f => motive f.2) null bool num str arr obj nofun
    (fun _ _ here later => List.forall_mem_cons.mpr ⟨here, later⟩) nofun
    (fun _ _ here later => List.forall_mem_cons.mpr ⟨here, later⟩) (fun _ _ here => here) j

/-! ### Places -/

/-- A step from an array or an object to what it holds. -/
inductive Step where
  | item (index : Nat)
  | field (key : String)

/-- A place in a document: the way to it, and what stands there. Arrays and objects are shown empty, what they hold
    stands at places of its own. -/
structure Place where
  path : List Step
  value : Json

namespace Place

/-- A place in an item or in the value of a field, seen from the array or the object. -/
def inside (step : Step) (p : Place) : Place :=
  ⟨step :: p.path, p.value⟩

/-- A field of an object, with the value `null`. Items of arrays are no fields. -/
def isNullField (p : Place) : Bool :=
  match p.path.getLast?, p.value with
  | some (.field _), .null => true
  | _, _ => false

end Place

/-- A value without what it holds. -/
def top : Json → Json
  | .arr _ => .arr []
  | .obj _ => .obj []
  | j => j

mutual

/-- The places inside of a value. -/
def placesInside : Json → List Place
  | .arr items => itemPlaces 0 items
  | .obj fields => fieldPlaces fields
  | .null => []
  | .bool _ => []
  | .num _ => []
  | .str _ => []

/-- The places of the items of an array, from an index on. -/
def itemPlaces : Nat → List Json → List Place
  | _, [] => []
  | index, j :: rest =>
    ⟨[.item index], top j⟩ :: ((placesInside j).map (Place.inside (.item index)) ++ itemPlaces (index + 1) rest)

/-- The places of the fields of an object. -/
def fieldPlaces : List (String × Json) → List Place
  | [] => []
  | (k, v) :: rest => ⟨[.field k], top v⟩ :: ((placesInside v).map (Place.inside (.field k)) ++ fieldPlaces rest)

end

/-- The places of a document, in the order of its text. -/
def places (j : Json) : List Place :=
  ⟨[], top j⟩ :: placesInside j

variable {j k : Json} {p : Place} {step : Step}

/-- Inside of a value every way has a step. -/
theorem path_ne_nil (member : p ∈ placesInside j) : p.path ≠ [] := by
  have items_ : ∀ (items : List Json) (index : Nat), p ∈ itemPlaces index items → p.path ≠ [] := by
    intro items
    induction items with
    | nil =>
      intro index none
      simp [itemPlaces] at none
    | cons j items ih =>
      intro index member
      simp only [itemPlaces, List.mem_cons, List.mem_append, List.mem_map] at member
      rcases member with rfl | ⟨q, _, rfl⟩ | later
      · simp
      · simp [Place.inside]
      · exact ih (index + 1) later
  have fields_ : ∀ fields : List (String × Json), p ∈ fieldPlaces fields → p.path ≠ [] := by
    intro fields
    induction fields with
    | nil =>
      intro none
      simp [fieldPlaces] at none
    | cons f fields ih =>
      intro member
      simp only [fieldPlaces, List.mem_cons, List.mem_append, List.mem_map] at member
      rcases member with rfl | ⟨q, _, rfl⟩ | later
      · simp
      · simp [Place.inside]
      · exact ih later
  cases j with
  | arr items => exact items_ items 0 member
  | obj fields => exact fields_ fields member
  | _ => simp [placesInside] at member

/-! ### Null fields -/

/-- Whether a place is a null field is seen from the last step to it. -/
theorem isNullField_inside (deep : p.path ≠ []) : (p.inside step).isNullField = p.isNullField := by
  obtain ⟨path, value⟩ := p
  cases path with
  | nil => exact absurd rfl deep
  | cons first path => simp [Place.inside, Place.isNullField]

theorem isNullField_item (index : Nat) (j : Json) : Place.isNullField ⟨[.item index], top j⟩ = false := rfl

theorem isNullField_field (key : String) (j : Json) : Place.isNullField ⟨[.field key], top j⟩ = j.isNull := by
  cases j <;> rfl

theorem isNullField_root (j : Json) : Place.isNullField ⟨[], top j⟩ = false := rfl

theorem top_withoutNulls (j : Json) : top j.withoutNulls = top j := by
  cases j <;> simp [withoutNulls, top]

/-- The null fields inside of an item or of the value of a field are those that are seen from outside. -/
theorem filter_inside (step : Step) (j : Json) :
    ((placesInside j).map (Place.inside step)).filter (fun p => !p.isNullField) =
      ((placesInside j).filter fun p => !p.isNullField).map (Place.inside step) := by
  rw [List.filter_map]
  congr 1
  apply List.filter_congr
  intro p member
  simp [isNullField_inside (path_ne_nil member)]

theorem itemPlaces_withoutNulls {items : List Json}
    (ih : ∀ j ∈ items, placesInside j.withoutNulls = (placesInside j).filter fun p => !p.isNullField) (index : Nat) :
    itemPlaces index (itemsWithoutNulls items) = (itemPlaces index items).filter fun p => !p.isNullField := by
  induction items generalizing index with
  | nil => rfl
  | cons j items later =>
    rw [List.forall_mem_cons] at ih
    simp [itemsWithoutNulls, itemPlaces, top_withoutNulls, isNullField_item, filter_inside, ih.1, later ih.2]

theorem fieldPlaces_withoutNulls {fields : List (String × Json)}
    (ih : ∀ f ∈ fields, placesInside f.2.withoutNulls = (placesInside f.2).filter fun p => !p.isNullField) :
    fieldPlaces (fieldsWithoutNulls fields) = (fieldPlaces fields).filter fun p => !p.isNullField := by
  induction fields with
  | nil => rfl
  | cons f fields later =>
    obtain ⟨key, value⟩ := f
    rw [List.forall_mem_cons] at ih
    obtain ⟨here, others⟩ := ih
    cases null : value.isNull with
    | true =>
      obtain rfl : value = .null := by cases value <;> first | rfl | cases null
      simp [fieldsWithoutNulls, fieldPlaces, placesInside, isNullField_field, Json.isNull, later others]
    | false =>
      simp only at here
      simp [fieldsWithoutNulls, fieldPlaces, top_withoutNulls, isNullField_field, filter_inside, null, here,
        later others]

theorem placesInside_withoutNulls (j : Json) :
    placesInside j.withoutNulls = (placesInside j).filter fun p => !p.isNullField := by
  induction j using Json.induction with
  | null => rfl
  | bool b => rfl
  | num n => rfl
  | str s => rfl
  | arr items ih => simpa [withoutNulls, placesInside] using itemPlaces_withoutNulls ih 0
  | obj fields ih => simpa [withoutNulls, placesInside] using fieldPlaces_withoutNulls ih

/-- Without the null fields, nothing else is left out or moved. -/
theorem places_withoutNulls (j : Json) : j.withoutNulls.places = j.places.filter fun p => !p.isNullField := by
  simp [places, top_withoutNulls, isNullField_root, placesInside_withoutNulls]

/-! ### Places tell documents apart -/

/-- A place that is not in the outermost array or object itself, but deeper. -/
def Place.isDeep (p : Place) : Bool :=
  1 < p.path.length

theorem isDeep_inside (member : p ∈ (placesInside j).map (Place.inside step)) : p.isDeep = true := by
  obtain ⟨q, inside, rfl⟩ := List.mem_map.mp member
  have step : 0 < q.path.length := List.length_pos_iff.mpr (path_ne_nil inside)
  simp [Place.isDeep, Place.inside]
  omega

/-- What is inside of the first of several values ends where the next one begins. -/
theorem inside_injective {l l' : List Place} (next : ∀ p ∈ l.head?, p.isDeep = false)
    (next' : ∀ p ∈ l'.head?, p.isDeep = false)
    (same : (placesInside j).map (Place.inside step) ++ l = (placesInside k).map (Place.inside step) ++ l') :
    placesInside j = placesInside k ∧ l = l' := by
  have ends (j : Json) {l : List Place} (next : ∀ p ∈ l.head?, p.isDeep = false) :
      ((placesInside j).map (Place.inside step) ++ l).takeWhile Place.isDeep =
        (placesInside j).map (Place.inside step) := by
    rw [List.takeWhile_append_of_pos fun p member => isDeep_inside member]
    cases l with
    | nil => simp
    | cons p l => simp [next p (by simp)]
  have first : (placesInside j).map (Place.inside step) = (placesInside k).map (Place.inside step) := by
    rw [← ends j next, same, ends k next']
  have injective : Function.Injective (Place.inside step) := by
    rintro ⟨path, value⟩ ⟨path', value'⟩ same
    simpa [Place.inside] using same
  constructor
  · exact List.map_injective_iff.mpr injective first
  · rw [first] at same
    exact List.append_cancel_left same

theorem head_itemPlaces (index : Nat) (items : List Json) : ∀ p ∈ (itemPlaces index items).head?, p.isDeep = false := by
  cases items <;> simp [itemPlaces, Place.isDeep]

theorem head_fieldPlaces (fields : List (String × Json)) : ∀ p ∈ (fieldPlaces fields).head?, p.isDeep = false := by
  cases fields <;> simp [fieldPlaces, Place.isDeep]

theorem itemPlaces_injective {items items' : List Json}
    (ih : ∀ j ∈ items, ∀ k, top j = top k → placesInside j = placesInside k → j = k) (index : Nat)
    (same : itemPlaces index items = itemPlaces index items') : items = items' := by
  induction items generalizing index items' with
  | nil =>
    cases items' with
    | nil => rfl
    | cons k items' => simp [itemPlaces] at same
  | cons j items later =>
    rw [List.forall_mem_cons] at ih
    cases items' with
    | nil => simp [itemPlaces] at same
    | cons k items' =>
      simp only [itemPlaces, List.cons.injEq, Place.mk.injEq, true_and] at same
      obtain ⟨tops, rest⟩ := same
      obtain ⟨insides, others⟩ := inside_injective (head_itemPlaces _ _) (head_itemPlaces _ _) rest
      rw [ih.1 k tops insides, later ih.2 (index + 1) others]

theorem fieldPlaces_injective {fields fields' : List (String × Json)}
    (ih : ∀ f ∈ fields, ∀ k, top f.2 = top k → placesInside f.2 = placesInside k → f.2 = k)
    (same : fieldPlaces fields = fieldPlaces fields') : fields = fields' := by
  induction fields generalizing fields' with
  | nil =>
    cases fields' with
    | nil => rfl
    | cons f fields' => simp [fieldPlaces] at same
  | cons f fields later =>
    rw [List.forall_mem_cons] at ih
    cases fields' with
    | nil => simp [fieldPlaces] at same
    | cons f' fields' =>
      obtain ⟨key, value⟩ := f
      obtain ⟨key', value'⟩ := f'
      simp only [fieldPlaces, List.cons.injEq, Place.mk.injEq, Step.field.injEq, and_true] at same
      obtain ⟨⟨rfl, tops⟩, rest⟩ := same
      obtain ⟨insides, others⟩ := inside_injective (head_fieldPlaces _) (head_fieldPlaces _) rest
      have values : value = value' := ih.1 value' tops insides
      rw [values, later ih.2 others]

theorem eq_of_placesInside (j : Json) : ∀ k, top j = top k → placesInside j = placesInside k → j = k := by
  induction j using Json.induction with
  | arr items ih =>
    intro k tops insides
    cases k with
    | arr items' => rw [itemPlaces_injective ih 0 insides]
    | _ => simp [top] at tops
  | obj fields ih =>
    intro k tops insides
    cases k with
    | obj fields' => rw [fieldPlaces_injective ih insides]
    | _ => simp [top] at tops
  | _ =>
    intro k tops _
    cases k <;> simp_all [top]

/-- The places of a document tell what it is. -/
theorem places_injective : Function.Injective places := by
  intro j k same
  simp only [places, List.cons.injEq, Place.mk.injEq, true_and] at same
  exact eq_of_placesInside j k same.1 same.2

/-- A document is left as it is exactly if it has no null field. -/
theorem withoutNulls_eq_iff : j.withoutNulls = j ↔ ∀ p ∈ j.places, p.isNullField = false := by
  rw [← places_injective.eq_iff, places_withoutNulls, List.filter_eq_self]
  simp

/-- Documents with the same text are the same. -/
theorem print_injective (document : IsDocument depthLimit j) (exact_ : Exact j) (document' : IsDocument depthLimit k)
    (exact' : Exact k) (same : j.print = k.print) : j = k := by
  have reading := parse_print document exact_
  rw [same, parse_print document' exact'] at reading
  exact (Except.ok.inj reading).symm

end DeviceTwin.Json

/-! ### Round trips -/

namespace DeviceTwin.Serializer
open DeviceTwin.Json

variable {j : Json}

theorem serialize_document (s : Serializer) (document : IsDocument depthLimit j) :
    s.serialize (.value j) = .ok (s.form j).print := by
  simp [serialize, s.prepare_document document]

theorem deserialize_form (s : Serializer) (document : IsDocument depthLimit j) (exact_ : Exact j) :
    s.deserialize .document (s.form j).print = .ok (s.form j) := by
  have reading := parse_print (s.isDocument_form document) (s.exact_form exact_)
  rw [Json.parse] at reading
  simp [deserialize, reading]

/-- A document without floating-point numbers is read from its verbose text as it is, and from its compact text without
    its null fields, of which the text is the same again. The two texts are the same only where no field is null. -/
theorem roundTrip_document (j : Json) (document : IsDocument depthLimit j) (exact_ : Exact j) :
    ∃ verbose compact : String,
      Serializer.verbose.serialize (.value j) = .ok verbose ∧
      Serializer.verbose.deserialize .document verbose = .ok j ∧
      Serializer.compact.serialize (.value j) = .ok compact ∧
      Serializer.compact.deserialize .document compact = .ok j.withoutNulls ∧
      j.withoutNulls.places = (j.places.filter fun p => !p.isNullField) ∧
      Serializer.compact.serialize (.value j.withoutNulls) = .ok compact ∧
      (verbose = compact ↔ ∀ p ∈ j.places, p.isNullField = false) := by
  have stripped : IsDocument depthLimit j.withoutNulls := isDocument_withoutNulls document
  have exact' : Exact j.withoutNulls := Serializer.compact.exact_form exact_
  have again : j.withoutNulls.withoutNulls = j.withoutNulls := Serializer.compact.form_form document
  refine ⟨j.print, j.withoutNulls.print, serialize_document .verbose document, deserialize_form .verbose document exact_,
    serialize_document .compact document, deserialize_form .compact document exact_, places_withoutNulls j, ?_, ?_⟩
  · rw [serialize_document .compact stripped]
    exact congrArg (fun k => Except.ok (print k)) again
  · rw [← withoutNulls_eq_iff]
    constructor
    · intro same
      exact print_injective stripped exact' document exact_ same.symm
    · intro same
      rw [same]

/-- A document with a null field of its own, one within an array, and an item that is `null`. -/
def faultReport : Json :=
  .obj [("fault", .null), ("history", .arr [.null, .obj [("code", .null), ("count", .int (-5))]])]

/-- The item stays where it is, the two fields are left out. -/
theorem roundTrip_document_faultReport :
    IsDocument depthLimit faultReport ∧ Exact faultReport ∧
      ∃ verbose compact : String,
        Serializer.verbose.serialize (.value faultReport) = .ok verbose ∧
        Serializer.verbose.deserialize .document verbose = .ok faultReport ∧
        Serializer.compact.serialize (.value faultReport) = .ok compact ∧
        Serializer.compact.deserialize .document compact =
          .ok (.obj [("history", .arr [.null, .obj [("count", .int (-5))]])]) ∧
        verbose ≠ compact := by
  have range : leastInt ≤ -5 ∧ -5 ≤ greatestInt := by decide
  have count : IsDocument 124 (.int (-5)) := .num 124 range
  have document : IsDocument depthLimit faultReport := by
    refine .obj ?_
    simp only [List.forall_mem_cons]
    refine ⟨.null 126, .arr ?_, nofun⟩
    simp only [List.forall_mem_cons]
    refine ⟨.null 125, .obj ?_, nofun⟩
    simp only [List.forall_mem_cons]
    exact ⟨.null 124, count, nofun⟩
  have exact_ : Exact faultReport := by
    refine .obj (by simp [Assoc.keys]) ?_
    simp only [List.forall_mem_cons]
    refine ⟨.null, .arr ?_, nofun⟩
    simp only [List.forall_mem_cons]
    refine ⟨.null, .obj (by simp [Assoc.keys]) ?_, nofun⟩
    simp only [List.forall_mem_cons]
    exact ⟨.null, .int (-5), nofun⟩
  obtain ⟨verbose, compact, written, reads, written', reads', -, -, same⟩ :=
    roundTrip_document faultReport document exact_
  refine ⟨document, exact_, verbose, compact, written, reads, written', reads', ?_⟩
  rw [Ne, same]
  simp [faultReport, places, placesInside, fieldPlaces, Place.isNullField, top]

end DeviceTwin.Serializer
