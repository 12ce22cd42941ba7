/-!
Punycode: texts beyond ASCII as letters, digits and hyphens. The characters of ASCII come first; the others follow in
the order of their code points, each as the distance from the one before it, which is written to the base 36 with a
threshold that adapts to the distances so far.
-/
namespace DeviceTwin.Url.Punycode

/-- The digit of a value below 36. -/
def digit (n : Nat) : Char :=
  if n < 26 then Char.ofNat (97 + n) else Char.ofNat (22 + n)

/-- The value of a digit in lower case. -/
def value? (c : Char) : Option Nat :=
  if 'a' ≤ c ∧ c ≤ 'z' then some (c.toNat - 97)
  else if '0' ≤ c ∧ c ≤ '9' then some (c.toNat - 22)
  else none

/-- The threshold of a digit, from 1 to 26. -/
def threshold (k bias : Nat) : Nat :=
  if k ≤ bias then 1 else if bias + 26 ≤ k then 26 else k - bias

/-- Scales a distance down; `fuel` bounds how often it is divided. -/
def scale : Nat → Nat → Nat → Nat
  | 0, k, _ => k
  | fuel + 1, k, delta => if delta > 455 then scale fuel (k + 36) (delta / 35) else k + 36 * delta / (delta + 38)

/-- The bias after a distance, when `count` characters are placed. -/
def adapt (delta count : Nat) (first : Bool) : Nat :=
  let delta := if first then delta / 700 else delta / 2
  scale (delta + 1) 0 (delta + delta / count)

/-- A distance in digits; `fuel` bounds their number. -/
def writeDistance (bias : Nat) : Nat → Nat → Nat → List Char
  | 0, _, _ => []
  | fuel + 1, k, q =>
    let t := threshold k bias
    if q < t then [digit q] else digit (t + (q - t) % (36 - t)) :: writeDistance bias fuel (k + 36) ((q - t) / (36 - t))

/-- How far an encoding has come. -/
structure Progress where
  delta : Nat
  bias : Nat
  /-- The number of characters that are placed. -/
  placed : Nat
  first : Bool
  output : List Char

/-- Passes over a character while those of code point `n` are placed. -/
def Progress.pass (n : Nat) (p : Progress) (c : Char) : Progress :=
  if c.toNat < n then { p with delta := p.delta + 1 }
  else if c.toNat = n then
    { delta := 0, bias := adapt p.delta (p.placed + 1) p.first, placed := p.placed + 1, first := false,
      output := p.output ++ writeDistance p.bias (p.delta + 1) 36 p.delta }
  else p

/-- Places the characters of the code points `ns`, in their order, from code point `n` on. -/
def placeAll (input : List Char) : Nat → List Nat → Progress → Progress
  | _, [], p => p
  | n, m :: ns, p =>
    let p := input.foldl (Progress.pass m) { p with delta := p.delta + (m - n) * (p.placed + 1) }
    placeAll input (m + 1) ns { p with delta := p.delta + 1 }

/-- The code points beyond ASCII, each once, in order. -/
def beyondAscii (input : List Char) : List Nat :=
  ((input.map Char.toNat).filter (· ≥ 0x80)).mergeSort.eraseDups

def encode (input : List Char) : List Char :=
  let basic := input.filter fun c => c.toNat < 0x80
  let start : Progress := ⟨0, 72, basic.length, true, []⟩
  basic ++ (if basic.isEmpty then [] else ['-']) ++ (placeAll input 0x80 (beyondAscii input) start).output

/-- Reads a distance onto `i`, and gives the rest of the digits. -/
def readDistance (bias : Nat) : Nat → Nat → Nat → List Char → Option (Nat × List Char)
  | _, _, _, [] => none
  | k, weight, i, c :: rest => do
    let d ← value? c
    let i := i + d * weight
    let t := threshold k bias
    if d < t then pure (i, rest) else readDistance bias (k + 36) (weight * (36 - t)) i rest

/-- Inserts the characters of some distances; every distance takes a digit, so `fuel` may be their number. -/
def insertAll : Nat → Nat → Nat → Nat → Bool → List Char → List Char → Option (List Char)
  | 0, _, _, _, _, output, digits => if digits.isEmpty then some output else none
  | fuel + 1, n, i, bias, first, output, digits =>
    if digits.isEmpty then some output
    else do
      let (j, rest) ← readDistance bias 36 1 i digits
      let count := output.length + 1
      let n := n + j / count
      if n > 0x10FFFF ∨ (0xD800 ≤ n ∧ n ≤ 0xDFFF) then none
      else
        let place := j % count
        insertAll fuel n (place + 1) (adapt (j - i) count first) false
          (output.take place ++ Char.ofNat n :: output.drop place) rest

/-- The text of an encoded text, if it is one. -/
def decode (input : List Char) : Option (List Char) :=
  let fromEnd := input.reverse
  let digits := (fromEnd.takeWhile (· ≠ '-')).reverse
  let basic := ((fromEnd.dropWhile (· ≠ '-')).drop 1).reverse
  if basic.any (fun c => c.toNat ≥ 0x80) then none
  else insertAll (digits.length + 1) 0x80 0 72 true basic digits

end DeviceTwin.Url.Punycode
