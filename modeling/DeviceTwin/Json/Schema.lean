import DeviceTwin.Json.Basic

/-!
What a reader expects of a JSON value. A value that is read by a schema is kept as the JSON value that it would be
written as: a field that may be left out and is not there has no entry in it, and a number has the width that the
schema asks for.
-/
namespace DeviceTwin.Json

/-- What a field that is not there reads as. -/
inductive Absence where
  /-- It has to be there. -/
  | required
  /-- It is `null`, and written so. -/
  | nullable
  /-- It has no value, and then it is not written either. -/
  | omitted
  /-- It has a fixed value. -/
  | default (value : Json)

/-- A declared field of a record. -/
structure Field (σ : Type) where
  key : String
  schema : σ
  absence : Absence

inductive Schema where
  /-- An integer from `least` to `greatest`, of a type called `name`. -/
  | integer (name : String) (least greatest : Int)
  /-- A natural number of 128 bits. -/
  | wide
  | double
  | single
  | boolean
  | text
  | unit
  /-- Any JSON value. -/
  | document
  | optional (inner : Schema)
  | sequence (item : Schema)
  /-- An object with any keys. -/
  | mapping (value : Schema)
  /-- One of some names. -/
  | variant (names : List String)
  | record (name : String) (fields : List (Field Schema))

namespace Schema

def u8 : Schema := .integer "u8" 0 0xFF
def u16 : Schema := .integer "u16" 0 0xFFFF
def i32 : Schema := .integer "i32" (-0x80000000) 0x7FFFFFFF
def i64 : Schema := .integer "i64" (-0x8000000000000000) 0x7FFFFFFFFFFFFFFF
def u64 : Schema := .integer "u64" 0 0xFFFFFFFFFFFFFFFF

/-- A field that has to be there. -/
def required (key : String) (schema : Schema) : Field Schema :=
  ⟨key, schema, .required⟩

/-- A field that may be left out, and then is. -/
def omitted (key : String) (schema : Schema) : Field Schema :=
  ⟨key, .optional schema, .omitted⟩

/-- A field with a fixed value where it is left out. -/
def defaulted (key : String) (schema : Schema) (value : Json) : Field Schema :=
  ⟨key, schema, .default value⟩

end Schema
end DeviceTwin.Json
