import DeviceTwin.Number.Binary
import DeviceTwin.Text.Numeral

/-!
The shortest decimal text of a binary floating-point number. Among the decimals that round to the number, one with the
fewest digits is taken, and among those the nearest. A decimal is looked for on finer and finer grids: on each grid
only the two neighbours of the number have to be tried.
-/
namespace DeviceTwin.Number
open DeviceTwin.Text

/-- The decimal `digits * 10 ^ exponent`. -/
structure Decimal where
  digits : Nat
  exponent : Int

/-- The decimals that round to a number, as bounds in units of a quarter of its last place; the bounds themselves
    belong to them when the mantissa is even. -/
structure Interval where
  low : Nat
  middle : Nat
  high : Nat
  exponent : Int
  closed : Bool

/-- Below a power of two the next number is nearer than above, save at the smallest exponent. -/
def interval (f : Format) (x : Binary) : Interval :=
  let m := 4 * x.mantissa
  let narrow := x.mantissa = Nat.pow 2 (f.precision - 1) ∧ f.minExponent < x.exponent
  ⟨if narrow then m - 1 else m - 2, m, m + 2, x.exponent - 2, x.mantissa % 2 = 0⟩

/-- Compares `a * 2 ^ e` with `d * 10 ^ k`. -/
def compareScaled (a : Nat) (e : Int) (d : Nat) (k : Int) : Ordering :=
  let left := a * (if e < 0 then 1 else Nat.pow 2 e.natAbs) * (if k < 0 then Nat.pow 10 k.natAbs else 1)
  let right := d * (if k < 0 then 1 else Nat.pow 10 k.natAbs) * (if e < 0 then Nat.pow 2 e.natAbs else 1)
  compare left right

def Interval.contains (i : Interval) (d : Nat) (k : Int) : Bool :=
  match compareScaled i.low i.exponent d k, compareScaled i.high i.exponent d k with
  | .lt, .gt => true
  | .eq, .gt => i.closed
  | .lt, .eq => i.closed
  | _, _ => false

/-- `a * 2 ^ e / 10 ^ k`, rounded down. -/
def gridFloor (a : Nat) (e k : Int) : Nat :=
  let num := a * (if e < 0 then 1 else Nat.pow 2 e.natAbs) * (if k < 0 then Nat.pow 10 k.natAbs else 1)
  let den := (if k < 0 then 1 else Nat.pow 10 k.natAbs) * (if e < 0 then Nat.pow 2 e.natAbs else 1)
  num / den

/-- The point of a grid that rounds to the number, if there is one; of two the nearer, of two equally near the even. -/
def Interval.gridPoint? (i : Interval) (k : Int) : Option Nat :=
  let d := gridFloor i.middle i.exponent k
  match i.contains d k, i.contains (d + 1) k with
  | true, false => some d
  | false, true => some (d + 1)
  | false, false => none
  | true, true =>
    match compareScaled (2 * i.middle) i.exponent (2 * d + 1) k with
    | .lt => some d
    | .gt => some (d + 1)
    | .eq => some (d + d % 2)

/-- The first hit on the grids of `10 ^ k`, `10 ^ (k - 1)` and so on. -/
def Interval.search (i : Interval) : Nat → Int → Decimal
  | 0, k => ⟨gridFloor i.middle i.exponent k, k⟩
  | steps + 1, k =>
    match i.gridPoint? k with
    | some d => ⟨d, k⟩
    | none => i.search steps (k - 1)

/-- A power of ten that is at least as large as a positive number. -/
def upperMagnitude (x : Binary) : Int :=
  if x.den ≤ x.num then (decimal (x.num / x.den)).length
  else 2 - ((decimal (x.den / x.num)).length : Int)

/-- The shortest decimal of a positive number; no number of 64 bits needs more than 17 digits. -/
def shortest (f : Format) (x : Binary) : Decimal :=
  (interval f x).search 20 (upperMagnitude x)

/-- How a decimal is laid out: positional when its leading digit stands for a power of ten from `least` to `greatest`,
    and with an exponent otherwise. -/
structure Layout where
  least : Int
  greatest : Int

/-- Digits with a point before the last `places` of them, filled up with zeros, and at least one digit on each side. -/
def pointed (l : List Char) (places : Nat) : List Char :=
  if places = 0 then l ++ ['.', '0']
  else
    let filled := List.replicate (places + 1 - l.length) '0' ++ l
    filled.take (filled.length - places) ++ '.' :: filled.drop (filled.length - places)

/-- The text of `digits * 10 ^ exponent`. -/
def Layout.write (layout : Layout) (digits : List Char) (exponent : Int) : List Char :=
  let lead := exponent + digits.length - 1
  if layout.least ≤ lead ∧ lead ≤ layout.greatest then
    if 0 ≤ exponent then pointed (digits ++ List.replicate exponent.natAbs '0') 0
    else pointed digits exponent.natAbs
  else
    let fraction := match digits with
      | c :: [] => [c]
      | c :: rest => c :: '.' :: rest
      | [] => []
    fraction ++ 'e' :: (if lead < 0 then '-' else '+') :: decimal lead.natAbs

/-- The text of a number: a fraction or an exponent is always there, so it cannot be taken for an integer. -/
def Binary.write (layout : Layout) (f : Format) (x : Binary) : List Char :=
  let sign := if x.negative then ['-'] else []
  if x.isZero then sign ++ ['0', '.', '0']
  else
    let d := shortest f x
    sign ++ layout.write (decimal d.digits) d.exponent

end DeviceTwin.Number
