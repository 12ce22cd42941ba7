import DeviceTwin.Proofs.Json.Typed
import DeviceTwin.Thermostat

/-!
The values of an application: integers of some width, truth values, texts, the value without content, options and
sequences, and records. A type has a schema and a way to write its values. What is written has the type that the schema
is for (`PayloadType.typed_json`), no two values are written alike (`PayloadType.json_injective`), and those that are
written as `null` are the value without content and options that are not set (`PayloadType.isNull_json`).
-/
namespace DeviceTwin
open Json (Schema Typed IsDocument leastInt greatestInt)

/-! ### Integers -/

inductive IntegerType where
  | u8
  | i32
  | i64
  | u64

namespace IntegerType

/-- The values of a type. -/
def Carrier : IntegerType → Type
  | .u8 => UInt8
  | .i32 => Int32
  | .i64 => Int64
  | .u64 => UInt64

def schema : IntegerType → Schema
  | .u8 => .u8
  | .i32 => .i32
  | .i64 => .i64
  | .u64 => .u64

def toInt : (i : IntegerType) → i.Carrier → Int
  | .u8, n => UInt8.toNat n
  | .i32, n => Int32.toInt n
  | .i64, n => Int64.toInt n
  | .u64, n => UInt64.toNat n

theorem typed_toInt : (i : IntegerType) → (n : i.Carrier) → Typed i.schema (.int (i.toInt n))
  | .u8, n => .integer "u8" (Int.natCast_nonneg _) (Int.le_sub_one_of_lt (Int.ofNat_lt.mpr (UInt8.toNat_lt n)))
  | .i32, n => .integer "i32" (Int32.le_toInt n) (Int.le_sub_one_of_lt (Int32.toInt_lt n))
  | .i64, n => .integer "i64" (Int64.le_toInt n) (Int.le_sub_one_of_lt (Int64.toInt_lt n))
  | .u64, n => .integer "u64" (Int.natCast_nonneg _) (Int.le_sub_one_of_lt (Int.ofNat_lt.mpr (UInt64.toNat_lt n)))

theorem toInt_within (i : IntegerType) (n : i.Carrier) : leastInt ≤ i.toInt n ∧ i.toInt n ≤ greatestInt := by
  unfold leastInt greatestInt
  match i, n with
  | .u8, n =>
    have high := UInt8.toNat_lt n
    simp only [toInt]
    omega
  | .i32, n =>
    have low := Int32.le_toInt n
    have high := Int32.toInt_lt n
    simp only [toInt]
    omega
  | .i64, n =>
    have low := Int64.le_toInt n
    have high := Int64.toInt_lt n
    simp only [toInt]
    omega
  | .u64, n =>
    have high := UInt64.toNat_lt n
    simp only [toInt]
    omega

theorem toInt_injective : (i : IntegerType) → Function.Injective i.toInt
  | .u8, _, _, same => UInt8.toNat_inj.mp (Int.ofNat.inj same)
  | .i32, _, _, same => Int32.toInt_inj.mp same
  | .i64, _, _, same => Int64.toInt_inj.mp same
  | .u64, _, _, same => UInt64.toNat_inj.mp (Int.ofNat.inj same)

end IntegerType

/-! ### Single values -/

inductive ScalarType where
  | integer (i : IntegerType)
  | boolean
  | text

namespace ScalarType

def Carrier : ScalarType → Type
  | .integer i => i.Carrier
  | .boolean => Bool
  | .text => String

def schema : ScalarType → Schema
  | .integer i => i.schema
  | .boolean => .boolean
  | .text => .text

/-- A value as it is written. -/
def json : (s : ScalarType) → s.Carrier → Json
  | .integer i, n => .int (i.toInt n)
  | .boolean, b => .bool b
  | .text, t => .str t

theorem typed_json : (s : ScalarType) → (x : s.Carrier) → Typed s.schema (s.json x)
  | .integer i, n => i.typed_toInt n
  | .boolean, b => .boolean b
  | .text, t => .text t

theorem isDocument_json (depth : Nat) : (s : ScalarType) → (x : s.Carrier) → IsDocument depth (s.json x)
  | .integer i, n => .num depth (i.toInt_within n)
  | .boolean, b => .bool depth b
  | .text, t => .str depth t

@[simp] theorem isNull_json (s : ScalarType) (x : s.Carrier) : (s.json x).isNull = false := by
  cases s <;> rfl

theorem json_injective : (s : ScalarType) → Function.Injective s.json
  | .integer i, _, _, same => i.toInt_injective (Json.Number.int.inj (Json.num.inj same))
  | .boolean, _, _, same => Json.bool.inj same
  | .text, _, _, same => Json.str.inj same

/-- An option as it is written. -/
def optional (s : ScalarType) : Option s.Carrier → Json
  | some x => s.json x
  | none => .null

theorem typed_optional (s : ScalarType) : (x : Option s.Carrier) → Typed (.optional s.schema) (s.optional x)
  | some x => .present (s.typed_json x) (s.isNull_json x)
  | none => .absent s.schema

theorem isDocument_optional (depth : Nat) (s : ScalarType) :
    (x : Option s.Carrier) → IsDocument depth (s.optional x)
  | some x => s.isDocument_json depth x
  | none => .null depth

theorem isNull_optional (s : ScalarType) (x : Option s.Carrier) : (s.optional x).isNull = x.isNone := by
  cases x with
  | some x => exact s.isNull_json x
  | none => rfl

theorem optional_injective (s : ScalarType) : Function.Injective s.optional := by
  intro x y same
  have null : x.isNone = y.isNone := by rw [← s.isNull_optional, same, s.isNull_optional]
  cases x with
  | some x =>
    cases y with
    | some y => exact congrArg some (s.json_injective same)
    | none => cases null
  | none =>
    cases y with
    | some y => cases null
    | none => rfl

end ScalarType

/-! ### Records -/

namespace Thermostat

/-- A range of humidity, in percent. -/
structure HumidityRange where
  min : UInt8
  max : UInt8
  label : Option String

namespace HumidityRange

/-- The fields of a range with what is written in them. -/
def fields (r : HumidityRange) : List (Json.Field Schema × Json) :=
  [(Schema.required "min" .u8, .int (IntegerType.toInt .u8 r.min)),
   (Schema.required "max" .u8, .int (IntegerType.toInt .u8 r.max)),
   (⟨"label", .optional .text, .nullable⟩, ScalarType.optional .text r.label)]

/-- A range as it is written. -/
def json (r : HumidityRange) : Json :=
  .obj (r.fields.map fun f => (f.1.key, f.2))

theorem typed_json (r : HumidityRange) : Typed humidityRange r.json := by
  refine @Typed.record "HumidityRange" r.fields ?_ ?_ ?_
  · simp [fields, Schema.required]
  · simp only [fields, List.forall_mem_cons]
    exact ⟨IntegerType.typed_toInt .u8 r.min, IntegerType.typed_toInt .u8 r.max,
      ScalarType.typed_optional .text r.label, nofun⟩
  · simp [fields, Schema.required, Json.int, Json.isNull]

theorem isDocument_json (depth : Nat) (r : HumidityRange) : IsDocument (depth + 1) r.json := by
  refine .obj ?_
  simp only [fields, List.map_cons, List.map_nil, List.forall_mem_cons]
  exact ⟨.num depth (IntegerType.toInt_within .u8 r.min), .num depth (IntegerType.toInt_within .u8 r.max),
    ScalarType.isDocument_optional depth .text r.label, nofun⟩

theorem json_injective : Function.Injective json := by
  rintro ⟨min, max, label⟩ ⟨min', max', label'⟩ same
  simp only [json, fields, List.map_cons, List.map_nil, Json.obj.injEq, List.cons.injEq, Prod.mk.injEq, true_and,
    and_true] at same
  obtain ⟨mins, maxes, labels⟩ := same
  have := IntegerType.toInt_injective .u8 (Json.Number.int.inj (Json.num.inj mins))
  have := IntegerType.toInt_injective .u8 (Json.Number.int.inj (Json.num.inj maxes))
  have := ScalarType.optional_injective .text labels
  subst_vars
  rfl

end HumidityRange
end Thermostat

/-! ### Payloads -/

inductive PayloadType where
  | scalar (s : ScalarType)
  | unit
  | optional (s : ScalarType)
  | sequence (s : ScalarType)
  | humidityRange

namespace PayloadType

def Carrier : PayloadType → Type
  | .scalar s => s.Carrier
  | .unit => Unit
  | .optional s => Option s.Carrier
  | .sequence s => List s.Carrier
  | .humidityRange => Thermostat.HumidityRange

def schema : PayloadType → Schema
  | .scalar s => s.schema
  | .unit => .unit
  | .optional s => .optional s.schema
  | .sequence s => .sequence s.schema
  | .humidityRange => Thermostat.humidityRange

/-- A value as it is written. -/
def json : (t : PayloadType) → t.Carrier → Json
  | .scalar s, x => s.json x
  | .unit, _ => .null
  | .optional s, x => s.optional x
  | .sequence s, items => .arr (List.map s.json items)
  | .humidityRange, r => Thermostat.HumidityRange.json r

/-- The value without content, and an option that is not set. -/
def isUnset : (t : PayloadType) → t.Carrier → Bool
  | .unit, _ => true
  | .optional _, x => Option.isNone x
  | _, _ => false

theorem typed_json : (t : PayloadType) → (x : t.Carrier) → Typed t.schema (t.json x)
  | .scalar s, x => s.typed_json x
  | .unit, _ => .unit
  | .optional s, x => s.typed_optional x
  | .sequence s, _ => .sequence (List.forall_mem_map.mpr fun x _ => s.typed_json x)
  | .humidityRange, r => Thermostat.HumidityRange.typed_json r

theorem isDocument_json (depth : Nat) : (t : PayloadType) → (x : t.Carrier) → IsDocument (depth + 1) (t.json x)
  | .scalar s, x => s.isDocument_json _ x
  | .unit, _ => .null _
  | .optional s, x => s.isDocument_optional _ x
  | .sequence s, _ => .arr (List.forall_mem_map.mpr fun x _ => s.isDocument_json depth x)
  | .humidityRange, r => Thermostat.HumidityRange.isDocument_json depth r

/-- The values that are written as `null`. -/
theorem isNull_json : (t : PayloadType) → (x : t.Carrier) → (t.json x).isNull = t.isUnset x
  | .scalar s, x => s.isNull_json x
  | .unit, _ => rfl
  | .optional s, x => s.isNull_optional x
  | .sequence _, _ => rfl
  | .humidityRange, _ => rfl

theorem json_injective : (t : PayloadType) → Function.Injective t.json
  | .scalar s => s.json_injective
  | .unit => fun _ _ _ => rfl
  | .optional s => s.optional_injective
  | .sequence s => fun _ _ same => s.json_injective.list_map (Json.arr.inj same)
  | .humidityRange => Thermostat.HumidityRange.json_injective

end PayloadType
end DeviceTwin
