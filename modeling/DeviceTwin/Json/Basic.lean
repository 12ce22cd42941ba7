import DeviceTwin.Assoc
import DeviceTwin.Number.Binary

/-!
JSON values. The fields of an object keep the order in which their keys were first set, and a key that is set again
keeps its place. Numbers are integers or binary floating-point numbers of 64 bits; a value that a program is about to
write may also hold a number of 32 bits or an integer beyond the range of documents, and `toDocument` says what such a
value becomes in a document.
-/
namespace DeviceTwin
open DeviceTwin.Number (Binary)

inductive Json.Number where
  | int (n : Int)
  | double (x : Binary)
  | single (x : Binary)
deriving DecidableEq

inductive Json where
  | null
  | bool (b : Bool)
  | num (n : Json.Number)
  | str (s : String)
  | arr (items : List Json)
  | obj (fields : List (String × Json))
deriving Inhabited

/-- The fields of an object, in order. -/
abbrev Fields : Type := Assoc Json

/-- The integers of documents: those of 64 bits, signed when negative and unsigned otherwise. -/
def Json.leastInt : Int := -0x8000000000000000
def Json.greatestInt : Int := 0xFFFFFFFFFFFFFFFF

namespace Json

def int (n : Int) : Json := .num (.int n)

def isNull : Json → Bool
  | .null => true
  | _ => false

def isObject : Json → Bool
  | .obj _ => true
  | _ => false

def fields? : Json → Option Fields
  | .obj fields => some fields
  | _ => none

def text? : Json → Option String
  | .str s => some s
  | _ => none

def int? : Json → Option Int
  | .num (.int n) => some n
  | _ => none

/-- An integer that a signed word of 64 bits holds. -/
def int64? (j : Json) : Option Int64 :=
  match j.int? with
  | some n => if -0x8000000000000000 ≤ n ∧ n < 0x8000000000000000 then some (Int64.ofInt n) else none
  | none => none

/-- A field of an object. -/
def get? (key : String) (j : Json) : Option Json :=
  match j with
  | .obj fields => Assoc.find? key fields
  | _ => none

/-- Equality of numbers: an integer is never equal to a floating-point number, and the two zeros are equal. -/
def Number.same : Number → Number → Bool
  | .int m, .int n => m = n
  | .double x, .double y => x.same y
  | .single x, .single y => x.same y
  | _, _ => false

mutual

/-- Equality of values, in which the order of the fields of an object does not count. -/
def same : Json → Json → Bool
  | .null, .null => true
  | .bool a, .bool b => a == b
  | .num a, .num b => a.same b
  | .str a, .str b => a == b
  | .arr a, .arr b => sameItems a b
  | .obj a, .obj b => a.length == b.length && sameFields a b
  | _, _ => false

def sameItems : List Json → List Json → Bool
  | [], [] => true
  | a :: as, b :: bs => same a b && sameItems as bs
  | _, _ => false

/-- Every field is equal to the field of the same key on the other side. -/
def sameFields : List (String × Json) → Fields → Bool
  | [], _ => true
  | (k, v) :: rest, other =>
    (match Assoc.find? k other with
      | some w => same v w
      | none => false) && sameFields rest other

end

mutual

/-- Without the fields that are `null`, at any depth. Items of an array stay, otherwise those after them would move. -/
def withoutNulls : Json → Json
  | .arr items => .arr (itemsWithoutNulls items)
  | .obj fields => .obj (fieldsWithoutNulls fields)
  | .null => .null
  | .bool b => .bool b
  | .num n => .num n
  | .str s => .str s

def itemsWithoutNulls : List Json → List Json
  | [] => []
  | j :: rest => withoutNulls j :: itemsWithoutNulls rest

def fieldsWithoutNulls : List (String × Json) → List (String × Json)
  | [] => []
  | (k, v) :: rest => if v.isNull then fieldsWithoutNulls rest else (k, withoutNulls v) :: fieldsWithoutNulls rest

end

/-- A number as a document holds it: one of 32 bits is widened, and an integer out of range is refused. -/
def Number.toDocument : Number → Option Number
  | .int n => if leastInt ≤ n ∧ n ≤ greatestInt then some (.int n) else none
  | .double x => some (.double x)
  | .single x => (x.convert DeviceTwin.Number.double).map .double

mutual

/-- A value as a document holds it. -/
def toDocument : Json → Option Json
  | .num n => n.toDocument.map .num
  | .arr items => (itemsToDocument items).map .arr
  | .obj fields => (fieldsToDocument fields).map .obj
  | .null => some .null
  | .bool b => some (.bool b)
  | .str s => some (.str s)

def itemsToDocument : List Json → Option (List Json)
  | [] => some []
  | j :: rest => do
    let j ← toDocument j
    let rest ← itemsToDocument rest
    pure (j :: rest)

def fieldsToDocument : List (String × Json) → Option (List (String × Json))
  | [] => some []
  | (k, v) :: rest => do
    let v ← toDocument v
    let rest ← fieldsToDocument rest
    pure ((k, v) :: rest)

end

end Json
end DeviceTwin
