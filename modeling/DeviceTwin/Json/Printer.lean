import DeviceTwin.Json.Basic
import DeviceTwin.Number.Shortest

/-!
The compact text of a JSON value: no blanks, only the escapes that a text needs, integers in decimal, and
floating-point numbers as the shortest decimal that reads back, always with a fraction or an exponent.
-/
namespace DeviceTwin.Json
open DeviceTwin.Number DeviceTwin.Text

/-- Numbers from 0.00001 up to sixteen digits before the point are written positionally. -/
def numberLayout : Layout := ⟨-5, 15⟩

def Number.write : Number → List Char
  | .int n => signedDecimal n
  | .double x => x.write numberLayout DeviceTwin.Number.double
  | .single x => x.write numberLayout DeviceTwin.Number.single

/-- What a character looks like inside a text. -/
def escapeChar (c : Char) : List Char :=
  if c = '"' then ['\\', '"']
  else if c = '\\' then ['\\', '\\']
  else if c.toNat = 0x8 then ['\\', 'b']
  else if c.toNat = 0xC then ['\\', 'f']
  else if c = '\n' then ['\\', 'n']
  else if c = '\r' then ['\\', 'r']
  else if c = '\t' then ['\\', 't']
  else if c.toNat < 0x20 then ['\\', 'u'] ++ padded 16 4 c.toNat
  else [c]

def writeText (l : List Char) : List Char :=
  '"' :: l.flatMap escapeChar ++ ['"']

mutual

def write : Json → List Char
  | .null => ['n', 'u', 'l', 'l']
  | .bool true => ['t', 'r', 'u', 'e']
  | .bool false => ['f', 'a', 'l', 's', 'e']
  | .num n => n.write
  | .str s => writeText s.toList
  | .arr items => '[' :: writeItems items ++ [']']
  | .obj fields => '\x7b' :: writeFields fields ++ ['\x7d']

/-- The items, with commas between them. -/
def writeItems : List Json → List Char
  | [] => []
  | [j] => write j
  | j :: k :: rest => write j ++ ',' :: writeItems (k :: rest)

/-- The fields, with commas between them. -/
def writeFields : List (String × Json) → List Char
  | [] => []
  | [(k, v)] => writeText k.toList ++ ':' :: write v
  | (k, v) :: f :: rest => writeText k.toList ++ ':' :: write v ++ ',' :: writeFields (f :: rest)

end

/-- The compact text of a value. -/
def print (j : Json) : String :=
  String.ofList j.write

end DeviceTwin.Json
