import DeviceTwin.Text.Blank
import DeviceTwin.Text.Numeral
import DeviceTwin.Text.Printable

/-!
Texts shown between double quotes. Quotes, backslashes and the usual controls have short escapes; a character that is
unprintable or extends the one before it is shown as its code point in braces; any other character stands for itself.
-/
namespace DeviceTwin.Text

/-- A character that is unprintable. -/
def isUnprintable (c : Char) : Bool :=
  inRanges unprintableLow c.toNat || inRanges unprintableMiddle c.toNat || inRanges unprintableHigh c.toNat

/-- A character that cannot be shown as itself. -/
def isUnshown (c : Char) : Bool :=
  if c.toNat < 0x7F then c.toNat < 0x20 else inRanges extendingRanges c.toNat || isUnprintable c

/-- What a character looks like between quotes. -/
def quoteChar (c : Char) : List Char :=
  if c = '"' then ['\\', '"']
  else if c = '\\' then ['\\', '\\']
  else if c = '\n' then ['\\', 'n']
  else if c = '\r' then ['\\', 'r']
  else if c = '\t' then ['\\', 't']
  else if c.toNat = 0 then ['\\', '0']
  else if isUnshown c then ['\\', 'u', '\x7b'] ++ digits 16 c.toNat ++ ['\x7d']
  else [c]

/-- A text between double quotes. -/
def quoted (s : String) : String :=
  String.ofList ('"' :: s.toList.flatMap quoteChar ++ ['"'])

end DeviceTwin.Text
