import DeviceTwin.Text.Numeral
import DeviceTwin.Text.Blank

/-!
Spans of time. A span is shown in the largest unit of which it has at least one, with the fraction that it needs.
-/
namespace DeviceTwin

structure Duration where
  milliseconds : Nat
deriving DecidableEq

namespace Duration

def ofSeconds (n : Nat) : Duration := ⟨n * 1000⟩

/-- A fraction of thousandths, without zeros at its end. -/
def fraction (n : Nat) : List Char :=
  if n = 0 then [] else '.' :: Text.dropTrailing (· = '0') (Text.padded 10 3 n)

def describe (d : Duration) : String :=
  if d.milliseconds = 0 then "0ns"
  else if d.milliseconds < 1000 then String.ofList (Text.decimal d.milliseconds) ++ "ms"
  else String.ofList (Text.decimal (d.milliseconds / 1000) ++ fraction (d.milliseconds % 1000)) ++ "s"

end Duration
end DeviceTwin
