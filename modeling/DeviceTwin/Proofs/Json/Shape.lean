import DeviceTwin.Proofs.Json.Typed

/-!
The shape of a schema. A document has the shape of a schema if it stands for a value of the schema's type
(`Schema.ofDocument?`); this is said of the document itself, without its text. A schema may not tell a field that is
`null` from one that is not there (`Schema.Heedless`), and then a document stands for the same value without its null
fields (`Json.overlooks`).
-/
namespace DeviceTwin.Json
open DeviceTwin.Number

/-! ### Shapes -/

namespace Field

/-- What a record has of a field that is not there, if it may be left out. -/
def absent? (f : Field Schema) : Option Fields :=
  match f.absence with
  | .required => none
  | .nullable => some [(f.key, .null)]
  | .omitted => some []
  | .default j => some [(f.key, j)]

/-- What a record has of a field behind the end of its array, if the field needs no value. -/
def untold? (f : Field Schema) : Option Fields :=
  match f.absence with
  | .required => none
  | .nullable => none
  | .omitted => some []
  | .default j => some [(f.key, j)]

end Field

namespace Schema

mutual

/-- The value that a document stands for, if it has the shape of a schema. -/
def ofDocument? : Schema → Json → Option Json
  | .integer _ least greatest, .num (.int n) => if least ≤ n ∧ n ≤ greatest then some (.int n) else none
  | .wide, .num (.int n) => if 0 ≤ n ∧ n ≤ wideLimit then some (.int n) else none
  | .double, .num n => (acceptDouble n).toOption
  | .single, .num n => (acceptSingle n).toOption
  | .boolean, .bool b => some (.bool b)
  | .text, .str s => some (.str s)
  | .unit, .null => some .null
  | .document, j => some j
  | .optional s, j => if j.isNull then some .null else s.ofDocument? j
  | .sequence s, .arr items => (items.mapM s.ofDocument?).map .arr
  | .mapping s, .obj fields => (fields.mapM fun f => (s.ofDocument? f.2).map (f.1, ·)).map .obj
  | .variant names, .str name => if names.contains name then some (.str name) else none
  | .variant names, .obj [(name, .null)] => if names.contains name then some (.str name) else none
  | .record _ declared, .obj fields => (recordOf? declared fields).map .obj
  | .record _ declared, .arr items => (tupleOf? declared items).map .obj
  | _, _ => none

/-- The fields of a record in the declared order, from the fields of an object. -/
def recordOf? : List (Field Schema) → Fields → Option Fields
  | [], _ => some []
  | ⟨key, schema, absence⟩ :: declared, fields =>
    (match Assoc.find? key fields with
      | some j => (schema.ofDocument? j).map (Field.entry ⟨key, schema, absence⟩)
      | none => Field.absent? ⟨key, schema, absence⟩).bind fun entry =>
        (recordOf? declared fields).map (entry ++ ·)

/-- The fields of a record in the declared order, from the items of an array. -/
def tupleOf? : List (Field Schema) → List Json → Option Fields
  | [], [] => some []
  | [], _ :: _ => none
  | ⟨key, schema, absence⟩ :: declared, j :: items =>
    (schema.ofDocument? j).bind fun value =>
      (tupleOf? declared items).map (Field.entry ⟨key, schema, absence⟩ value ++ ·)
  | f :: declared, [] => f.untold?.bind fun entry => (tupleOf? declared []).map (entry ++ ·)

end

mutual

/-- Every record of a schema declares a key only once. -/
def Distinct : Schema → Prop
  | .optional s => s.Distinct
  | .sequence s => s.Distinct
  | .mapping s => s.Distinct
  | .record _ declared => (declared.map (·.key)).Nodup ∧ AllDistinct declared
  | _ => True

def AllDistinct : List (Field Schema) → Prop
  | [] => True
  | ⟨_, schema, _⟩ :: declared => schema.Distinct ∧ AllDistinct declared

end

/-- A schema that is not that of an option. -/
def Plain : Schema → Prop
  | .optional _ => False
  | _ => True

/-- A schema by which a number may be read. -/
def Numeric : Schema → Prop
  | .integer _ _ _ => True
  | .wide => True
  | .double => True
  | .single => True
  | .document => True
  | _ => False

/-- The schema of what is in an option. -/
def core : Schema → Schema
  | .optional s => s.core
  | s => s

end Schema

/-- What a record has of a field of an object, which may have no such field. -/
def Field.entryIn? (f : Field Schema) (fields : Fields) : Option Fields :=
  match Assoc.find? f.key fields with
  | some j => (f.schema.ofDocument? j).map f.entry
  | none => f.absent?

namespace Schema
variable {declared : List (Field Schema)} {f : Field Schema} {j : Json} {fields fields' : Fields}

theorem recordOf?_cons (f : Field Schema) (declared : List (Field Schema)) (fields : Fields) :
    recordOf? (f :: declared) fields =
      (f.entryIn? fields).bind fun entry => (recordOf? declared fields).map (entry ++ ·) := by
  cases f
  rw [recordOf?]
  rfl

theorem tupleOf?_cons (f : Field Schema) (declared : List (Field Schema)) (j : Json) (items : List Json) :
    tupleOf? (f :: declared) (j :: items) =
      (f.schema.ofDocument? j).bind fun value => (tupleOf? declared items).map (f.entry value ++ ·) := by
  cases f
  rw [tupleOf?]

theorem tupleOf?_nil (f : Field Schema) (declared : List (Field Schema)) :
    tupleOf? (f :: declared) [] = f.untold?.bind fun entry => (tupleOf? declared []).map (entry ++ ·) := by
  cases f
  rw [tupleOf?]

/-- A record is made of nothing but the fields that it declares. -/
theorem recordOf?_congr (same : ∀ f ∈ declared, f.entryIn? fields = f.entryIn? fields') :
    recordOf? declared fields = recordOf? declared fields' := by
  induction declared with
  | nil => rfl
  | cons f declared ih =>
    rw [List.forall_mem_cons] at same
    rw [recordOf?_cons, recordOf?_cons, same.1, ih same.2]

/-- A record has no value if one of its fields has none. -/
theorem recordOf?_eq_none (declares : f ∈ declared) (refused : f.entryIn? fields = none) :
    recordOf? declared fields = none := by
  induction declared with
  | nil => cases declares
  | cons g declared ih =>
    rw [recordOf?_cons]
    rcases List.mem_cons.mp declares with rfl | later
    · simp [refused]
    · simp [ih later]

theorem AllDistinct.of_mem (all : AllDistinct declared) (member : f ∈ declared) : f.schema.Distinct := by
  induction declared with
  | nil => cases member
  | cons g declared ih =>
    obtain ⟨key, schema, absence⟩ := g
    rw [AllDistinct] at all
    rcases List.mem_cons.mp member with rfl | later
    · exact all.1
    · exact ih all.2 later

/-! ### Options -/

theorem plain_core : (schema : Schema) → schema.core.Plain
  | .optional s => s.plain_core
  | .integer _ _ _ | .wide | .double | .single | .boolean | .text | .unit | .document | .sequence _ | .mapping _
  | .variant _ | .record _ _ => trivial

theorem distinct_core : (schema : Schema) → schema.Distinct → schema.core.Distinct
  | .optional s, distinct => s.distinct_core distinct
  | .integer _ _ _, _ | .wide, _ | .double, _ | .single, _ | .boolean, _ | .text, _ | .unit, _ | .document, _ => trivial
  | .sequence _, distinct | .mapping _, distinct | .variant _, distinct | .record _ _, distinct => distinct

/-- What is not `null` is taken out of an option as its content is. -/
theorem ofDocument?_core (there : j.isNull = false) :
    (schema : Schema) → schema.core.ofDocument? j = schema.ofDocument? j
  | .optional s => by
    rw [core, ofDocument?_core there s, ofDocument?, there]
    rfl
  | .integer _ _ _ | .wide | .double | .single | .boolean | .text | .unit | .document | .sequence _ | .mapping _
  | .variant _ | .record _ _ => rfl

end Schema

/-! ### Null fields -/

/-- A field that is `null` is as good as one that is not there. -/
def Field.NullAsAbsent (f : Field Schema) : Prop :=
  (f.schema.ofDocument? .null).map f.entry = f.absent?

namespace Schema

mutual

/-- A schema that does not tell a field that is `null` from one that is not there. -/
def Heedless : Schema → Prop
  | .document => False
  | .mapping _ => False
  | .variant _ => False
  | .optional s => s.Heedless
  | .sequence s => s.Heedless
  | .record _ declared => (∀ f ∈ declared, f.NullAsAbsent) ∧ AllHeedless declared
  | _ => True

def AllHeedless : List (Field Schema) → Prop
  | [] => True
  | ⟨_, schema, _⟩ :: declared => schema.Heedless ∧ AllHeedless declared

end

variable {declared : List (Field Schema)} {f : Field Schema} {j : Json} {fields : Fields} {items : List Json}
  {schema : Schema}

theorem AllHeedless.of_mem (all : AllHeedless declared) (member : f ∈ declared) : f.schema.Heedless := by
  induction declared with
  | nil => cases member
  | cons g declared ih =>
    obtain ⟨key, schema, absence⟩ := g
    rw [AllHeedless] at all
    rcases List.mem_cons.mp member with rfl | later
    · exact all.1
    · exact ih all.2 later

theorem heedless_core : (schema : Schema) → schema.Heedless → schema.core.Heedless
  | .optional s, heedless => s.heedless_core heedless
  | .integer _ _ _, _ | .wide, _ | .double, _ | .single, _ | .boolean, _ | .text, _ | .unit, _ => trivial
  | .document, heedless | .sequence _, heedless | .mapping _, heedless | .variant _, heedless
  | .record _ _, heedless => heedless

end Schema

variable {declared : List (Field Schema)} {f : Field Schema} {j : Json} {fields : Fields} {items : List Json}
  {schema : Schema}

theorem isNull_withoutNulls (j : Json) : j.withoutNulls.isNull = j.isNull :=
  Serializer.isNull_form .compact

theorem find?_fieldsWithoutNulls (distinct : (Assoc.keys fields).Nodup) (key : String) :
    Assoc.find? key (fieldsWithoutNulls fields) =
      (Assoc.find? key fields).bind fun j => if j.isNull then none else some j.withoutNulls := by
  induction fields with
  | nil => rfl
  | cons e fields ih =>
    obtain ⟨k, j⟩ := e
    simp only [Assoc.keys, List.map_cons, List.nodup_cons] at distinct
    have later := ih distinct.2
    rw [fieldsWithoutNulls]
    by_cases same : k = key
    · subst same
      rw [Assoc.find?_eq_none distinct.1] at later
      cases null : j.isNull <;> simp [Assoc.find?, null, later]
    · cases null : j.isNull <;> simp [Assoc.find?, same, later]

/-- A record has the same of a field when the null fields are left out. -/
theorem Field.entryIn?_withoutNulls (distinct : (Assoc.keys fields).Nodup)
    (heedless : Assoc.find? f.key fields = some .null → f.NullAsAbsent)
    (inside : ∀ e ∈ fields, f.schema.ofDocument? e.2.withoutNulls = f.schema.ofDocument? e.2) :
    f.entryIn? (fieldsWithoutNulls fields) = f.entryIn? fields := by
  rw [entryIn?, entryIn?, find?_fieldsWithoutNulls distinct]
  cases found : Assoc.find? f.key fields with
  | none => rfl
  | some j =>
    cases null : j.isNull with
    | true =>
      obtain rfl : j = .null := by cases j <;> first | rfl | cases null
      exact (heedless found).symm
    | false =>
      have same : f.schema.ofDocument? j.withoutNulls = f.schema.ofDocument? j := inside _ (Assoc.mem_of_find? found)
      simp [null, same]

/-- What a schema says of a value does not depend on its null fields. -/
def Schema.Overlooks (schema : Schema) (j : Json) : Prop :=
  schema.ofDocument? j.withoutNulls = schema.ofDocument? j

/-- So it is of a record, if no field is `null` for which this counts. -/
theorem recordOf?_withoutNulls (distinct : (Assoc.keys fields).Nodup)
    (heedless : ∀ f ∈ declared, Assoc.find? f.key fields = some .null → f.NullAsAbsent)
    (inside : ∀ e ∈ fields, ∀ f ∈ declared, f.schema.Overlooks e.2) :
    Schema.recordOf? declared (fieldsWithoutNulls fields) = Schema.recordOf? declared fields := by
  apply Schema.recordOf?_congr
  intro f declares
  exact f.entryIn?_withoutNulls distinct (heedless f declares) fun e member => inside e member f declares

theorem tupleOf?_withoutNulls (inside : ∀ j ∈ items, ∀ f ∈ declared, f.schema.Overlooks j) :
    Schema.tupleOf? declared (itemsWithoutNulls items) = Schema.tupleOf? declared items := by
  induction declared generalizing items with
  | nil => cases items <;> rfl
  | cons f declared ih =>
    cases items with
    | nil => rfl
    | cons j items =>
      rw [List.forall_mem_cons] at inside
      have later := ih fun j member g declares => inside.2 j member g (List.mem_cons_of_mem f declares)
      have here : f.schema.ofDocument? j.withoutNulls = f.schema.ofDocument? j := inside.1 f List.mem_cons_self
      rw [itemsWithoutNulls, Schema.tupleOf?_cons, Schema.tupleOf?_cons, here, later]

theorem mapM_withoutNulls {convert : Json → Option Json}
    (inside : ∀ j ∈ items, convert j.withoutNulls = convert j) :
    (itemsWithoutNulls items).mapM convert = items.mapM convert := by
  induction items with
  | nil => rfl
  | cons j items ih =>
    rw [List.forall_mem_cons] at inside
    rw [itemsWithoutNulls, List.mapM_cons, List.mapM_cons, inside.1, ih inside.2]

theorem overlooks_arr (plain : schema.Plain) (heedless : schema.Heedless)
    (inside : ∀ j ∈ items, ∀ s : Schema, s.Heedless → s.Overlooks j) : schema.Overlooks (.arr items) := by
  rw [Schema.Overlooks, withoutNulls]
  cases schema with
  | optional => cases plain
  | document => cases heedless
  | sequence s =>
    have same : (itemsWithoutNulls items).mapM s.ofDocument? = items.mapM s.ofDocument? :=
      mapM_withoutNulls fun j member => inside j member s heedless
    rw [Schema.ofDocument?, Schema.ofDocument?, same]
  | record name declared =>
    have same : Schema.tupleOf? declared (itemsWithoutNulls items) = Schema.tupleOf? declared items :=
      tupleOf?_withoutNulls fun j member f declares => inside j member f.schema (heedless.2.of_mem declares)
    rw [Schema.ofDocument?, Schema.ofDocument?, same]
  | _ => rfl

theorem overlooks_obj (plain : schema.Plain) (heedless : schema.Heedless) (distinct : (Assoc.keys fields).Nodup)
    (inside : ∀ e ∈ fields, ∀ s : Schema, s.Heedless → s.Overlooks e.2) : schema.Overlooks (.obj fields) := by
  rw [Schema.Overlooks, withoutNulls]
  cases schema with
  | optional => cases plain
  | document => cases heedless
  | mapping => cases heedless
  | «variant» => cases heedless
  | record name declared =>
    have same : Schema.recordOf? declared (fieldsWithoutNulls fields) = Schema.recordOf? declared fields :=
      recordOf?_withoutNulls distinct (fun f declares _ => heedless.1 f declares)
        fun e member f declares => inside e member f.schema (heedless.2.of_mem declares)
    rw [Schema.ofDocument?, Schema.ofDocument?, same]
  | _ => rfl

theorem Schema.Overlooks.of_core (there : j.isNull = false) (overlooks : schema.core.Overlooks j) :
    schema.Overlooks j := by
  rwa [Overlooks, ofDocument?_core there, ofDocument?_core (j.isNull_withoutNulls.trans there)] at overlooks

/-- By a schema that does not heed null fields, a document stands for the same value without them. -/
theorem overlooks (exact_ : Exact j) (schema : Schema) (heedless : schema.Heedless) :
    schema.Overlooks j := by
  induction exact_ generalizing schema with
  | null => rfl
  | bool b => rfl
  | int n => rfl
  | str s => rfl
  | arr _ ih => exact (overlooks_arr schema.plain_core (schema.heedless_core heedless) ih).of_core rfl
  | obj distinct _ ih => exact (overlooks_obj schema.plain_core (schema.heedless_core heedless) distinct ih).of_core rfl

end DeviceTwin.Json
