/-!
UTF-8. Characters become one to four bytes; bytes fall into pieces, each a character, a malformed sequence or a
sequence that the end cuts off. A malformed sequence is the longest prefix of a character that was found, at least
one byte, so the byte after it is looked at afresh. Strict reading accepts characters only; lenient reading puts
U+FFFD for every other piece.
-/
namespace DeviceTwin.Text

/-- The bytes of a character. -/
def utf8 (c : Char) : List UInt8 :=
  let n := c.toNat
  if n < 0x80 then [n.toUInt8]
  else if n < 0x800 then [(0xC0 + n / 0x40).toUInt8, (0x80 + n % 0x40).toUInt8]
  else if n < 0x10000 then
    [(0xE0 + n / 0x1000).toUInt8, (0x80 + n / 0x40 % 0x40).toUInt8, (0x80 + n % 0x40).toUInt8]
  else
    [(0xF0 + n / 0x40000).toUInt8, (0x80 + n / 0x1000 % 0x40).toUInt8, (0x80 + n / 0x40 % 0x40).toUInt8,
     (0x80 + n % 0x40).toUInt8]

def utf8Bytes (s : String) : List UInt8 :=
  s.toList.flatMap utf8

/-- The number of bytes of a text. -/
def utf8Length (l : List Char) : Nat :=
  (l.flatMap utf8).length

inductive Utf8Piece where
  | char (c : Char)
  | malformed (length : Nat)
  | cut

/-- What a leading byte above U+007F announces: the payload it carries, how many bytes follow, and the range of the
    first of them, which keeps out overlong forms, surrogates and numbers beyond U+10FFFF. -/
def utf8Lead? (b : Nat) : Option (Nat × Nat × Nat × Nat) :=
  if 0xC2 ≤ b ∧ b ≤ 0xDF then some (b - 0xC0, 1, 0x80, 0xBF)
  else if b = 0xE0 then some (0, 2, 0xA0, 0xBF)
  else if b = 0xED then some (0xD, 2, 0x80, 0x9F)
  else if 0xE1 ≤ b ∧ b ≤ 0xEF then some (b - 0xE0, 2, 0x80, 0xBF)
  else if b = 0xF0 then some (0, 3, 0x90, 0xBF)
  else if 0xF1 ≤ b ∧ b ≤ 0xF3 then some (b - 0xF0, 3, 0x80, 0xBF)
  else if b = 0xF4 then some (4, 3, 0x80, 0x8F)
  else none

/-- Reads `count` more bytes of a character, the next one from `lo` to `hi`; `read` bytes are read already. -/
def utf8Continue (acc read lo hi : Nat) : Nat → List UInt8 → Utf8Piece × List UInt8
  | 0, rest => (.char (Char.ofNat acc), rest)
  | _ + 1, [] => (.cut, [])
  | count + 1, b :: rest =>
    if lo ≤ b.toNat ∧ b.toNat ≤ hi then
      utf8Continue (acc * 0x40 + b.toNat % 0x40) (read + 1) 0x80 0xBF count rest
    else (.malformed read, b :: rest)

/-- The first piece of some bytes, and the bytes after it. -/
def utf8Piece (b : UInt8) (rest : List UInt8) : Utf8Piece × List UInt8 :=
  if b.toNat < 0x80 then (.char (Char.ofNat b.toNat), rest)
  else match utf8Lead? b.toNat with
    | some (payload, count, lo, hi) => utf8Continue payload 1 lo hi count rest
    | none => (.malformed 1, rest)

/-- All pieces of some bytes; each takes at least one byte, so as many steps as there are bytes are enough. -/
def utf8PiecesIn : Nat → List UInt8 → List Utf8Piece
  | _, [] => []
  | 0, _ :: _ => []
  | fuel + 1, b :: rest => (utf8Piece b rest).1 :: utf8PiecesIn fuel (utf8Piece b rest).2

def utf8Pieces (bytes : List UInt8) : List Utf8Piece :=
  utf8PiecesIn bytes.length bytes

/-- Why bytes are not UTF-8: where the first fault begins and, unless the end cuts it off, how long it is. -/
structure Utf8Error where
  start : Nat
  length? : Option Nat

def Utf8Error.message (e : Utf8Error) : String :=
  match e.length? with
  | some n => s!"invalid utf-8 sequence of {n} bytes from index {e.start}"
  | none => s!"incomplete utf-8 byte sequence from index {e.start}"

/-- The characters of the pieces, from the byte offset `start` on, unless one of them is no character. -/
def charactersOf (start : Nat) : List Utf8Piece → Except Utf8Error (List Char)
  | [] => .ok []
  | .char c :: rest =>
    match charactersOf (start + (utf8 c).length) rest with
    | .ok l => .ok (c :: l)
    | .error e => .error e
  | .malformed n :: _ => .error ⟨start, some n⟩
  | .cut :: _ => .error ⟨start, none⟩

/-- Strict reading. -/
def ofUtf8 (bytes : List UInt8) : Except Utf8Error String :=
  match charactersOf 0 (utf8Pieces bytes) with
  | .ok l => .ok (String.ofList l)
  | .error e => .error e

/-- Lenient reading. -/
def ofUtf8Lossy (bytes : List UInt8) : String :=
  String.ofList <| (utf8Pieces bytes).map fun
    | .char c => c
    | _ => Char.ofNat 0xFFFD

end DeviceTwin.Text
