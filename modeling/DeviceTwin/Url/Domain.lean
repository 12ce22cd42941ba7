import DeviceTwin.Text.LowerCase
import DeviceTwin.Text.Quoted
import DeviceTwin.Text.Split
import DeviceTwin.Text.Utf8
import DeviceTwin.Url.Error
import DeviceTwin.Url.Punycode

/-!
Domain names in ASCII. Case does not count, and a label with characters beyond ASCII is written in Punycode behind a
mark of its own. Of the mapping of international names this is the part that changes case and width and drops what does
not count: composed characters are taken as they are given, without normalization, and neither the direction of writing
nor the place of joiners is looked at.
-/
namespace DeviceTwin.Url
open DeviceTwin.Text

/-- Characters that no domain holds, besides controls and blanks. -/
def forbiddenInDomain : List Char := "%#/:<>?@[\\]^|".toList

/-- A character of ASCII that no domain holds. -/
def isForbidden (c : Char) : Bool :=
  c.toNat ≤ 0x20 || c.toNat = 0x7F || forbiddenInDomain.contains c

/-- Characters that a domain may hold and that do not count. -/
def ignoredRanges : List (Nat × Nat) :=
  [(0xAD, 0xAD), (0x34F, 0x34F), (0x180B, 0x180D), (0x180F, 0x180F), (0x200B, 0x200B), (0x2060, 0x2060),
   (0x2064, 0x2064), (0xFE00, 0xFE0F), (0xFEFF, 0xFEFF)]

/-- Full stops beyond ASCII. -/
def isFullStop (c : Char) : Bool :=
  c.toNat = 0x3002 || c.toNat = 0xFF61

/-- The character that stands for one in a domain. -/
def domainChar (c : Char) : Char :=
  if isFullStop c then '.'
  else if c.toNat < 0x80 then c.toLower
  else (lowerBeyondAscii c).toLower

/-- A character, as `domainChar` gives it, that a domain may hold. -/
def isDomainChar (c : Char) : Bool :=
  if c.toNat < 0x80 then !isForbidden c else !isUnprintable c

/-- The characters of a domain, without those that do not count. -/
def mapDomain (l : List Char) : List Char :=
  (l.filter fun c => !inRanges ignoredRanges c.toNat).map domainChar

/-- What a label in Punycode begins with. -/
def punycodeMark : List Char := "xn--".toList

def isAsciiText (l : List Char) : Bool :=
  l.all fun c => c.toNat < 0x80

/-- A label that is written in Punycode: it begins with a character that stands on its own. -/
def isLongLabel (l : List Char) : Bool :=
  !isAsciiText l && l.all isDomainChar && mapDomain l = l &&
    (match l with
      | c :: _ => !inRanges extendingRanges c.toNat
      | [] => false)

/-- A label in ASCII. One that is given in Punycode has to be what its text is written as. -/
def labelToAscii (l : List Char) : Except ParseError (List Char) :=
  if !isAsciiText l then
    if isLongLabel l then .ok (punycodeMark ++ Punycode.encode l) else .error .invalidDomain
  else if punycodeMark.isPrefixOf l then
    match Punycode.decode (l.drop punycodeMark.length) with
    | some text => if isLongLabel text then .ok l else .error .invalidDomain
    | none => .error .invalidDomain
  else .ok l

def labelsToAscii : List (List Char) → Except ParseError (List (List Char))
  | [] => .ok []
  | label :: rest => do
    let label ← labelToAscii label
    let labels ← labelsToAscii rest
    pure (label :: labels)

/-- The domain that some bytes name. -/
def domainToAscii (bytes : List UInt8) : Except ParseError (List Char) :=
  match ofUtf8 bytes with
  | .error _ => .error .invalidDomain
  | .ok text =>
    let l := mapDomain text.toList
    if l.all isDomainChar then do
      let labels ← labelsToAscii (pieces (· = '.') l)
      pure (['.'].intercalate labels)
    else .error .invalidDomain

end DeviceTwin.Url
