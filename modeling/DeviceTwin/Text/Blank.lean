/-!
Blank characters and trimming. A character is blank when Unicode gives it the property White_Space; trimming a
text removes the blanks at both ends and nothing between.
-/
namespace DeviceTwin.Text

/-- The property White_Space, as ranges of code points. -/
def blankRanges : List (Nat × Nat) :=
  [(0x9, 0xD), (0x20, 0x20), (0x85, 0x85), (0xA0, 0xA0), (0x1680, 0x1680), (0x2000, 0x200A), (0x2028, 0x2029),
   (0x202F, 0x202F), (0x205F, 0x205F), (0x3000, 0x3000)]

/-- A code point lies in one of the ranges. -/
def inRanges (ranges : List (Nat × Nat)) (n : Nat) : Bool :=
  ranges.any fun r => r.1 ≤ n && n ≤ r.2

def isBlank (c : Char) : Bool :=
  inRanges blankRanges c.toNat

/-- What is left of a list once the longest run of `p` at its end is dropped. -/
def dropTrailing {α : Type} (p : α → Bool) (l : List α) : List α :=
  (l.reverse.dropWhile p).reverse

/-- Without the blanks at both ends. -/
def trimChars (l : List Char) : List Char :=
  dropTrailing isBlank (l.dropWhile isBlank)

def trim (s : String) : String :=
  String.ofList (trimChars s.toList)

/-- Only blanks, or nothing at all. -/
def isBlankText (s : String) : Bool :=
  (trimChars s.toList).isEmpty

/-- A trimmed text, unless nothing is left of it. -/
def nonBlank? (l : List Char) : Option (List Char) :=
  if (trimChars l).isEmpty then none else some (trimChars l)

end DeviceTwin.Text
