import DeviceTwin.Json.Reader
import DeviceTwin.TwinError

/-!
Payloads. A serializer writes values into JSON payloads and reads them by a schema. The compact one turns a value into
a JSON document first and leaves out fields that are `null`; the verbose one writes the value as it is.
-/
namespace DeviceTwin
open Json (Schema)

inductive Serializer where
  | compact
  | verbose
deriving DecidableEq

/-- What is handed to a serializer: a value, or something that has no JSON form. Of that nothing more is known, and it
    is always refused for the same reason. -/
inductive Datum where
  | value (j : Json)
  | unwritable

/-- The type of a value: how it is read, and whether it can be written. -/
structure Shape where
  schema : Schema
  writable : Bool

/-- A value of a shape, as it is handed to a serializer. -/
def Shape.datum (shape : Shape) (j : Json) : Datum :=
  if shape.writable then .value j else .unwritable

/-- The content type of every payload. -/
def jsonContentType : String := "application/json"

/-- The content encoding of every payload. -/
def utf8Encoding : String := "utf-8"

namespace Serializer

def contentType (_ : Serializer) : String := jsonContentType
def contentEncoding (_ : Serializer) : String := utf8Encoding

/-- The value as a payload holds it. -/
def prepare : Serializer → Datum → Except WriteError Json
  | _, .unwritable => .error .keyNotText
  | .verbose, .value j => .ok j
  | .compact, .value j =>
    match j.toDocument with
    | some d => .ok d.withoutNulls
    | none => .error .numberOutOfRange

def serialize (s : Serializer) (d : Datum) : Except TwinError String :=
  match s.prepare d with
  | .ok j => .ok j.print
  | .error e => .error (.unwritable e)

def deserialize (_ : Serializer) (schema : Schema) (payload : String) : Except TwinError Json :=
  match Json.read schema payload with
  | .ok j => .ok j
  | .error e => .error (.unreadable e)

/-- The JSON document that a payload of the value holds. -/
def toWire (s : Serializer) (d : Datum) : Except TwinError Json := do
  s.deserialize .document (← s.serialize d)

/-- The value that a JSON document holds. -/
def ofWire (s : Serializer) (schema : Schema) (j : Json) : Except TwinError Json := do
  s.deserialize schema (← s.serialize (.value j))

end Serializer

/-- The code in a payload. The number is judged before what follows it in the payload. -/
def AckCode.ofPayload (payload : String) : Except TwinError AckCode :=
  match Json.readValue Json.depthLimit .u16 payload.toList with
  | .error e => .error (.unreadable e)
  | .ok (j, rest) =>
    let status := (j.int?.getD 0).toNat
    match AckCode.ofStatus? status with
    | none => .error (.unreadable (.refused (TwinError.unknownCode status).display))
    | some code =>
      match Json.endText rest with
      | .ok () => .ok code
      | .error e => .error (.unreadable e)

end DeviceTwin
