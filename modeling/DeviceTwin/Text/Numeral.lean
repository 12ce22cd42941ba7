/-!
Positional numerals: the digits of a number to a base, and the number that digits stand for. Numerals are written
without leading zeros, except where a fixed width is asked for.
-/
namespace DeviceTwin.Text

/-- The digit of a value below sixteen, in lower case. -/
def digitChar (n : Nat) : Char :=
  (['0', '1', '2', '3', '4', '5', '6', '7', '8', '9', 'a', 'b', 'c', 'd', 'e', 'f'][n]?).getD '0'

/-- The digit of a value below sixteen, in upper case. -/
def upperDigitChar (n : Nat) : Char :=
  (['0', '1', '2', '3', '4', '5', '6', '7', '8', '9', 'A', 'B', 'C', 'D', 'E', 'F'][n]?).getD '0'

/-- The value of a hexadecimal digit of either case. -/
def hexDigit? (c : Char) : Option Nat :=
  if '0' ≤ c ∧ c ≤ '9' then some (c.toNat - 48)
  else if 'a' ≤ c ∧ c ≤ 'f' then some (c.toNat - 87)
  else if 'A' ≤ c ∧ c ≤ 'F' then some (c.toNat - 55)
  else none

/-- The digits of a number to a base, most significant first, in front of `tail`; `fuel` bounds their count. -/
def digitsOnto (base : Nat) : Nat → Nat → List Char → List Char
  | 0, _, tail => tail
  | fuel + 1, n, tail =>
    if n < base then digitChar n :: tail
    else digitsOnto base fuel (n / base) (digitChar (n % base) :: tail)

/-- The numeral of a number to a base, without leading zeros. -/
def digits (base n : Nat) : List Char :=
  digitsOnto base (n + 1) n []

def decimal (n : Nat) : List Char :=
  digits 10 n

/-- Decimal, with a minus sign in front of a negative number. -/
def signedDecimal (n : Int) : List Char :=
  if n < 0 then '-' :: decimal n.natAbs else decimal n.natAbs

/-- The number that decimal digits stand for after the number `start`. -/
def ofDecimalFrom (start : Nat) (l : List Char) : Nat :=
  l.foldl (fun n c => n * 10 + (c.toNat - 48)) start

/-- A decimal numeral: digits only, at least one. -/
def ofDecimal? (l : List Char) : Option Nat :=
  if l.isEmpty || l.any (fun c => !c.isDigit) then none else some (ofDecimalFrom 0 l)

/-- Exactly `width` digits to a base, the higher ones dropped. -/
def padded (base : Nat) : Nat → Nat → List Char
  | 0, _ => []
  | width + 1, n => padded base width (n / base) ++ [digitChar (n % base)]

end DeviceTwin.Text
