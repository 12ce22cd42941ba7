import DeviceTwin.Encoding.Percent
import DeviceTwin.Url.Domain
import DeviceTwin.Url.Path

/-!
Hosts: names, IPv4 addresses in any of their notations, and IPv6 addresses between brackets. Where a scheme knows
hosts, a name whose last label is a number has to be an IPv4 address; where it does not, a name is kept as it is.
-/
namespace DeviceTwin.Url
open DeviceTwin.Text

inductive Host where
  /-- There is none, or its name is empty. -/
  | absent
  | name (l : List Char)
  | ipv4 (address : Nat)
  /-- Eight numbers of 16 bits. -/
  | ipv6 (groups : List Nat)
deriving DecidableEq

/-! ### IPv4 -/

/-- The base that the beginning of a number announces, and its digits. -/
def numberBase : List Char → Nat × List Char
  | '0' :: 'x' :: rest => (16, rest)
  | '0' :: 'X' :: rest => (16, rest)
  | '0' :: c :: rest => (8, c :: rest)
  | l => (10, l)

/-- A number in decimal, octal or hexadecimal notation; an announcement without digits is zero. -/
def ipv4Number? (l : List Char) : Option Nat :=
  if l.isEmpty then none
  else
    let (base, digits) := numberBase l
    digits.foldlM (fun n c => (hexDigit? c).bind fun d => if d < base then some (n * base + d) else none) 0

/-- Without an empty part at the end. -/
def withoutLastEmpty (parts : List (List Char)) : List (List Char) :=
  match parts.getLast? with
  | some [] => parts.dropLast
  | _ => parts

/-- The last label is a number, so the whole has to be an address. -/
def endsInNumber (l : List Char) : Bool :=
  match (withoutLastEmpty (pieces (· = '.') l)).getLast? with
  | some last => (!last.isEmpty && last.all Char.isDigit) || (ipv4Number? last).isSome
  | none => false

/-- The address of at most four numbers: each but the last is one byte, and the last fills what is left. -/
def ipv4OfNumbers (start : Nat) : Nat → List Nat → Option Nat
  | _, [] => none
  | 0, _ :: _ => none
  | bytes + 1, [n] => if n < Nat.pow 256 (bytes + 1) then some (start * Nat.pow 256 (bytes + 1) + n) else none
  | bytes + 1, n :: rest => if n < 256 then ipv4OfNumbers (start * 256 + n) bytes rest else none

def ipv4? (l : List Char) : Option Nat := do
  let numbers ← (withoutLastEmpty (pieces (· = '.') l)).mapM ipv4Number?
  ipv4OfNumbers 0 4 numbers

/-! ### IPv6 -/

/-- One to four hexadecimal digits. -/
def ipv6Group? (l : List Char) : Option Nat :=
  if l.isEmpty || l.length > 4 then none
  else l.foldlM (fun n c => (hexDigit? c).map fun d => n * 16 + d) 0

/-- A byte in decimal, without leading zeros. -/
def byte? (l : List Char) : Option Nat :=
  if l.head? = some '0' ∧ 1 < l.length then none
  else (ofDecimal? l).filter (· < 256)

/-- An IPv4 address at the end, as two groups. -/
def ipv6Tail? (l : List Char) : Option (List Nat) := do
  match ← (pieces (· = '.') l).mapM byte? with
  | [a, b, c, d] => some [a * 256 + b, c * 256 + d]
  | _ => none

/-- The numbers of some groups, the last of which may be an IPv4 address. -/
def ipv6Numbers? (tail : Bool) : List (List Char) → Option (List Nat)
  | [] => some []
  | [last] => if tail && last.contains '.' then ipv6Tail? last else (ipv6Group? last).map ([·])
  | group :: rest => do
    let n ← ipv6Group? group
    let ns ← ipv6Numbers? tail rest
    pure (n :: ns)

/-- Groups between colons; no groups if there is no text. -/
def ipv6Groups? (tail : Bool) (l : List Char) : Option (List Nat) :=
  if l.isEmpty then some [] else ipv6Numbers? tail (pieces (· = ':') l)

/-- An address, in which two colons together stand for one or more zero groups. -/
def ipv6? (l : List Char) : Option (List Nat) :=
  match splitAtWord [':', ':'] l with
  | some (before, after) => do
    let before ← ipv6Groups? false before
    let after ← ipv6Groups? true after
    let given := before.length + after.length
    if given < 8 then some (before ++ List.replicate (8 - given) 0 ++ after) else none
  | none => (ipv6Groups? true l).filter fun groups => groups.length = 8

/-- The length of the run of zeros at the beginning. -/
def zeroRun (groups : List Nat) : Nat :=
  (groups.takeWhile (· = 0)).length

/-- The longest run of zeros from every position on. -/
def longestZeroRun : List Nat → Nat
  | [] => 0
  | n :: rest => max (zeroRun (n :: rest)) (longestZeroRun rest)

/-- The groups in hexadecimal, with colons between them. -/
def writeGroups (groups : List Nat) : List Char :=
  [':'].intercalate (groups.map (digits 16))

/-- The address with its first longest run of two or more zeros left out; `before` are the groups in front. -/
def writeIpv6From (longest : Nat) (before : List Nat) : List Nat → List Char
  | [] => writeGroups before.reverse
  | n :: rest =>
    if 2 ≤ longest ∧ zeroRun (n :: rest) = longest then
      writeGroups before.reverse ++ [':', ':'] ++ writeGroups ((n :: rest).drop longest)
    else writeIpv6From longest (n :: before) rest

def writeIpv4 (address : Nat) : List Char :=
  ['.'].intercalate
    ([address / 0x1000000, address / 0x10000 % 0x100, address / 0x100 % 0x100, address % 0x100].map decimal)

def Host.write : Host → List Char
  | .absent => []
  | .name l => l
  | .ipv4 address => writeIpv4 address
  | .ipv6 groups => '[' :: writeIpv6From (longestZeroRun groups) [] groups ++ [']']

/-! ### Reading a host -/

/-- An address between brackets. -/
def bracketed (l : List Char) : Except ParseError Host :=
  match l.getLast? with
  | some ']' =>
    match ipv6? (l.drop 1).dropLast with
    | some groups => .ok (.ipv6 groups)
    | none => .error .invalidIpv6
  | _ => .error .invalidIpv6

/-- The host of a scheme that knows hosts. -/
def knownHost (l : List Char) : Except ParseError Host :=
  match l with
  | '[' :: _ => bracketed l
  | _ =>
    match domainToAscii (Percent.decode (l.flatMap utf8)) with
    | .error e => .error e
    | .ok [] => .error .emptyHost
    | .ok domain =>
      if endsInNumber domain then
        match ipv4? domain with
        | some address => .ok (.ipv4 address)
        | none => .error .invalidIpv4
      else .ok (.name domain)

/-- Characters that no host holds. -/
def forbiddenInHost : List Char :=
  [Char.ofNat 0, '\t', '\n', '\r', ' ', '#', '/', ':', '<', '>', '?', '@', '[', '\\', ']', '^', '|']

/-- The host of any other scheme, which is kept as it is. -/
def foreignHost (l : List Char) : Except ParseError Host :=
  match l with
  | [] => .ok .absent
  | '[' :: _ => bracketed l
  | _ =>
    if l.any forbiddenInHost.contains then .error .invalidHostCharacter
    else .ok (.name (Percent.encode isControlOrBeyond l))

end DeviceTwin.Url
