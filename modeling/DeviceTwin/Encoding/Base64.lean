/-!
Base64 with the standard alphabet. Three bytes are written as four symbols, and a last group that is not full is
filled with `=`. Reading is strict: the padding has to be there, and the bits of the last symbol that no byte takes
have to be zero, so that every list of bytes has one text.
-/
namespace DeviceTwin.Base64

/-- The symbol of a value below 64. -/
def symbol (n : Nat) : Char :=
  if n < 26 then Char.ofNat (65 + n)
  else if n < 52 then Char.ofNat (71 + n)
  else if n < 62 then Char.ofNat (n - 4)
  else if n = 62 then '+'
  else '/'

/-- The value of a symbol, given as a byte. -/
def value? (b : Nat) : Option Nat :=
  if 65 ≤ b ∧ b ≤ 90 then some (b - 65)
  else if 97 ≤ b ∧ b ≤ 122 then some (b - 71)
  else if 48 ≤ b ∧ b ≤ 57 then some (b + 4)
  else if b = 43 then some 62
  else if b = 47 then some 63
  else none

def padding : Char := '='

/-- The byte of the padding. -/
def paddingByte : Nat := 61

def encode : List UInt8 → List Char
  | [] => []
  | [a] =>
    let n := a.toNat * 0x10
    [symbol (n / 0x40), symbol (n % 0x40), padding, padding]
  | [a, b] =>
    let n := (a.toNat * 0x100 + b.toNat) * 0x4
    [symbol (n / 0x1000), symbol (n / 0x40 % 0x40), symbol (n % 0x40), padding]
  | a :: b :: c :: rest =>
    let n := (a.toNat * 0x100 + b.toNat) * 0x100 + c.toNat
    symbol (n / 0x40000) :: symbol (n / 0x1000 % 0x40) :: symbol (n / 0x40 % 0x40) :: symbol (n % 0x40) ::
      encode rest

inductive ReadError where
  | invalidSymbol (byte offset : Nat)
  | invalidLastSymbol (byte offset : Nat)
  | invalidLength (length : Nat)
  | invalidPadding

def ReadError.message : ReadError → String
  | .invalidSymbol byte offset => s!"Invalid symbol {byte}, offset {offset}."
  | .invalidLastSymbol byte offset => s!"Invalid last symbol {byte}, offset {offset}."
  | .invalidLength length => s!"Invalid input length: {length}"
  | .invalidPadding => "Invalid padding"

/-- The value of the symbol at an offset. -/
def readSymbol (offset : Nat) (b : UInt8) : Except ReadError Nat :=
  match value? b.toNat with
  | some n => .ok n
  | none => .error (.invalidSymbol b.toNat offset)

/-- The symbols of the last group and what is left of it, which begins with padding. -/
def takeSymbols (offset : Nat) : List UInt8 → Except ReadError (List Nat × List UInt8)
  | [] => .ok ([], [])
  | b :: rest =>
    if b.toNat = paddingByte then .ok ([], b :: rest)
    else do
      let n ← readSymbol offset b
      let (ns, rest) ← takeSymbols (offset + 1) rest
      pure (n :: ns, rest)

/-- The bytes that some symbols carry, and the value of the bits that are left over. -/
def assemble : List Nat → List UInt8 × Nat
  | [] => ([], 0)
  | [a] => ([], a)
  | [a, b] =>
    let n := a * 0x40 + b
    ([(n / 0x10).toUInt8], n % 0x10)
  | [a, b, c] =>
    let n := (a * 0x40 + b) * 0x40 + c
    ([(n / 0x400).toUInt8, (n / 0x4 % 0x100).toUInt8], n % 0x4)
  | a :: b :: c :: d :: _ =>
    let n := ((a * 0x40 + b) * 0x40 + c) * 0x40 + d
    ([(n / 0x10000).toUInt8, (n / 0x100 % 0x100).toUInt8, (n % 0x100).toUInt8], 0)

/-- The last group, of at most four bytes. Padding may follow two symbols or three, and nothing may follow padding. -/
def decodeLast (offset : Nat) (group : List UInt8) : Except ReadError (List UInt8) := do
  let (ns, fill) ← takeSymbols offset group
  if !fill.isEmpty && ns.length < 2 then throw (.invalidSymbol paddingByte (offset + ns.length))
  if fill.any (fun b => b.toNat ≠ paddingByte) then throw (.invalidSymbol paddingByte (offset + ns.length))
  if !group.isEmpty && ns.length < 2 then throw (.invalidLength (offset + ns.length))
  if (ns.length + fill.length) % 4 ≠ 0 then throw .invalidPadding
  let (bytes, left) := assemble ns
  if left ≠ 0 then throw (.invalidLastSymbol ((group[ns.length - 1]?).getD 0).toNat (offset + ns.length - 1))
  pure bytes

/-- Groups of four symbols, the last of which may be padded. -/
def decodeGroups (offset : Nat) : List UInt8 → Except ReadError (List UInt8)
  | a :: b :: c :: d :: e :: rest => do
    let w ← readSymbol offset a
    let x ← readSymbol (offset + 1) b
    let y ← readSymbol (offset + 2) c
    let z ← readSymbol (offset + 3) d
    let bytes ← decodeGroups (offset + 4) (e :: rest)
    pure ((assemble [w, x, y, z]).1 ++ bytes)
  | group => decodeLast offset group

/-- A byte that is no symbol after the last full group, as a line end is. -/
def strayByte? (bytes : List UInt8) : Option ReadError :=
  match bytes.getLast? with
  | some b =>
    if bytes.length % 4 = 1 ∧ b.toNat ≠ paddingByte ∧ (value? b.toNat).isNone then
      some (.invalidSymbol b.toNat (bytes.length - 1))
    else none
  | none => none

/-- The bytes of a text, itself given as bytes. A stray byte at the end is reported before any other fault. -/
def decode (bytes : List UInt8) : Except ReadError (List UInt8) :=
  match strayByte? bytes with
  | some e => .error e
  | none => decodeGroups 0 bytes

end DeviceTwin.Base64
