import DeviceTwin.Text.Numeral
import DeviceTwin.Text.Utf8

/-!
Percent-encoding and form-urlencoding. A byte is written as a percent sign with two hexadecimal digits in upper case;
which characters are written so depends on where the text stands. In a form a space is written as a plus sign, and
only letters, digits and `*-._` are written as they are.
-/
namespace DeviceTwin.Percent
open DeviceTwin.Text

def encodeByte (b : UInt8) : List Char :=
  ['%', upperDigitChar (b.toNat / 16), upperDigitChar (b.toNat % 16)]

/-- The text with the bytes of every character of a kind encoded. -/
def encode (encodes : Char → Bool) (l : List Char) : List Char :=
  l.flatMap fun c => if encodes c then (utf8 c).flatMap encodeByte else [c]

/-- The bytes that an encoded text stands for. A percent sign without two digits stands for itself. -/
def decode : List UInt8 → List UInt8
  | [] => []
  | p :: a :: b :: rest =>
    if p = 37 then
      match hexDigit? (Char.ofNat a.toNat), hexDigit? (Char.ofNat b.toNat) with
      | some m, some n => (m * 16 + n).toUInt8 :: decode rest
      | _, _ => p :: decode (a :: b :: rest)
    else p :: decode (a :: b :: rest)
  | p :: rest => p :: decode rest

/-- A character that stands for itself in a form. -/
def isFormSafe (c : Char) : Bool :=
  c.isAlphanum || c = '*' || c = '-' || c = '.' || c = '_'

def encodeFormChar (c : Char) : List Char :=
  if c = ' ' then ['+'] else if isFormSafe c then [c] else (utf8 c).flatMap encodeByte

/-- The text as a form holds it. -/
def encodeForm (l : List Char) : List Char :=
  l.flatMap encodeFormChar

end DeviceTwin.Percent
