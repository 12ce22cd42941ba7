import DeviceTwin.Property.Patch

/-!
Acknowledgements of writable properties. An acknowledgement travels as an object, the envelope; there are two styles
of envelopes, which differ in their keys.
-/
namespace DeviceTwin

inductive AckStyle where
  | twinCollection
  | structured
deriving DecidableEq

namespace AckStyle

def valueKey (_ : AckStyle) : String := "value"

def codeKey : AckStyle → String
  | .twinCollection => "ac"
  | .structured => "ackCode"

def versionKey : AckStyle → String
  | .twinCollection => "av"
  | .structured => "ackVersion"

def descriptionKey : AckStyle → String
  | .twinCollection => "ad"
  | .structured => "ackDescription"

end AckStyle

structure Ack where
  value : Json
  code : AckCode
  version : Int64
  description : Option String

namespace AckStyle

/-- The envelope of an acknowledgement; the description is left out where there is none. -/
def encode (style : AckStyle) (ack : Ack) : Json :=
  .obj ([(style.valueKey, ack.value), (style.codeKey, .int ack.code.status),
    (style.versionKey, .int ack.version.toInt)] ++
    match ack.description with
    | some d => [(style.descriptionKey, .str d)]
    | none => [])

/-- The code that a value stands for. -/
def code? (j : Json) : Option AckCode :=
  match j.int? with
  | some n => if 0 ≤ n then AckCode.ofStatus? n.toNat else none
  | none => none

/-- The acknowledgement in an envelope. -/
def decode (style : AckStyle) (envelope : Json) : Except TwinError Ack :=
  match envelope with
  | .obj fields =>
    match Assoc.find? style.valueKey fields with
    | none => .error (.envelopeWithout style.valueKey)
    | some value =>
      match (Assoc.find? style.codeKey fields).bind code? with
      | none => .error (.envelopeInvalid style.codeKey)
      | some code =>
        match (Assoc.find? style.versionKey fields).bind Json.int64? with
        | none => .error (.envelopeInvalid style.versionKey)
        | some version => .ok ⟨value, code, version, (Assoc.find? style.descriptionKey fields).bind Json.text?⟩
  | _ => .error .envelopeNotObject

end AckStyle
end DeviceTwin
