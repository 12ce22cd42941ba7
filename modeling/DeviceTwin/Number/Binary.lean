/-!
Binary floating-point numbers. A number is a sign, a natural mantissa and a power of two; a format says how many bits
the mantissa may have and which powers are allowed. A result is the exact value rounded to the nearest number of the
format, a tie going to the even mantissa (`roundHalfEven`), and overflow is the absence of a result. All arithmetic
is exact arithmetic on natural numbers.
-/
namespace DeviceTwin.Number

/-- A floating-point format: bits of the mantissa, and the exponents of the smallest and of the largest unit. -/
structure Format where
  precision : Nat
  minExponent : Int
  maxExponent : Int

/-- Numbers of 64 bits. -/
def double : Format := ⟨53, -1074, 971⟩

/-- Numbers of 32 bits. -/
def single : Format := ⟨24, -149, 104⟩

/-- The number `± mantissa * 2 ^ exponent`. -/
structure Binary where
  negative : Bool
  mantissa : Nat
  exponent : Int
deriving DecidableEq, Inhabited

/-- A quotient rounded to the nearest natural number, a tie going to the even one. -/
def roundHalfEven (num den : Nat) : Nat :=
  let q := num / den
  let twice := 2 * (num % den)
  if twice < den then q
  else if den < twice then q + 1
  else q + q % 2

/-- The numerator of `num / den` in units of `2 ^ e`. -/
def unitNum (num : Nat) (e : Int) : Nat :=
  if e < 0 then num * Nat.pow 2 e.natAbs else num

/-- The denominator of `num / den` in units of `2 ^ e`. -/
def unitDen (den : Nat) (e : Int) : Nat :=
  if e < 0 then den else den * Nat.pow 2 e.natAbs

def zero (f : Format) (negative : Bool) : Binary :=
  ⟨negative, 0, f.minExponent⟩

/-- The exponent of the unit in which `num / den` has as many bits as the format allows. -/
def unitExponent (f : Format) (num den : Nat) : Int :=
  let top : Int := (Nat.log2 num : Int) - (Nat.log2 den : Int) + 1 - f.precision
  let e := if unitNum num top / unitDen den top < Nat.pow 2 (f.precision - 1) then top - 1 else top
  if e < f.minExponent then f.minExponent else e

/-- The number of a format nearest to `num / den`, unless it is too large. -/
def round (f : Format) (negative : Bool) (num den : Nat) : Option Binary :=
  if num = 0 then some (zero f negative)
  else
    let e := unitExponent f num den
    let m := roundHalfEven (unitNum num e) (unitDen den e)
    if m = 0 then some (zero f negative)
    else
      let r : Binary := if m = Nat.pow 2 f.precision then ⟨negative, m / 2, e + 1⟩ else ⟨negative, m, e⟩
      if f.maxExponent < r.exponent then none else some r

namespace Binary

/-- The numerator of the absolute value. -/
def num (x : Binary) : Nat :=
  if x.exponent < 0 then x.mantissa else x.mantissa * Nat.pow 2 x.exponent.natAbs

/-- The denominator of the absolute value, a power of two. -/
def den (x : Binary) : Nat :=
  if x.exponent < 0 then Nat.pow 2 x.exponent.natAbs else 1

def isZero (x : Binary) : Bool :=
  x.mantissa = 0

def mul (f : Format) (x y : Binary) : Option Binary :=
  round f (x.negative != y.negative) (x.num * y.num) (x.den * y.den)

def div (f : Format) (x y : Binary) : Option Binary :=
  round f (x.negative != y.negative) (x.num * y.den) (x.den * y.num)

/-- The nearest number of another format. -/
def convert (f : Format) (x : Binary) : Option Binary :=
  round f x.negative x.num x.den

/-- Equal as numbers: the two zeros are equal. -/
def same (x y : Binary) : Bool :=
  (x.isZero && y.isZero) || x = y

end Binary

/-- The nearest number to an integer. -/
def ofInt (f : Format) (n : Int) : Option Binary :=
  round f (n < 0) n.natAbs 1

/-- The nearest number to a power of ten. -/
def powerOfTen (n : Nat) : Option Binary :=
  round double false (Nat.pow 10 n) 1

/-- The largest power of ten that is a number of 64 bits. -/
def maxPowerOfTen : Nat := 308

/-- Divides by the largest power of ten until the exponent is at least minus that power; three steps take every
    mantissa of 64 bits to zero. -/
def scaleDown : Nat → Binary → Nat → Binary × Nat
  | 0, x, _ => (zero double x.negative, 0)
  | steps + 1, x, n =>
    if n ≤ maxPowerOfTen then (x, n)
    else if x.isZero then (x, 0)
    else
      let y := (do let p ← powerOfTen maxPowerOfTen; x.div double p).getD x
      scaleDown steps y (n - maxPowerOfTen)

/-- The number `significand * 10 ^ exponent`, computed as the nearest number to the significand and then multiplied
    or divided by a power of ten. Nothing when it is too large. -/
def ofDecimalParts (negative : Bool) (significand : Nat) (exponent : Int) : Option Binary := do
  let x ← ofInt double significand
  let r ←
    if 0 ≤ exponent then
      if exponent.natAbs ≤ maxPowerOfTen then do x.mul double (← powerOfTen exponent.natAbs)
      else if x.isZero then some x
      else none
    else do
      let (y, n) := scaleDown 4 x exponent.natAbs
      y.div double (← powerOfTen n)
  pure { r with negative }

end DeviceTwin.Number
