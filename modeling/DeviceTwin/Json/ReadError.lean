import DeviceTwin.Json.Printer
import DeviceTwin.Text.Quoted

/-!
Why a JSON text cannot be read: either it is not JSON, or it holds a value of another kind than the reader wants. An
error says what is wrong and not where: messages are without line and column.
-/
namespace DeviceTwin.Json

/-- What stands in the text in place of the wanted value. -/
inductive Found where
  | null
  | bool (b : Bool)
  | number (n : Number)
  | text (s : String)
  | map
  | sequence

def Found.describe : Found → String
  | .null => "null"
  | .bool b => s!"boolean `{b}`"
  | .number (.int n) => "integer `" ++ String.ofList (Text.signedDecimal n) ++ "`"
  | .number x => "floating point `" ++ String.ofList x.write ++ "`"
  | .text s => "string " ++ Text.quoted s
  | .map => "map"
  | .sequence => "sequence"

inductive ReadError where
  | endInValue
  | endInList
  | endInObject
  | endInText
  | expectedValue
  | expectedWord
  | invalidNumber
  | numberOutOfRange
  | keyNotText
  | expectedColon
  | expectedListEnd
  | expectedObjectEnd
  | trailingComma
  | trailingCharacters
  | invalidEscape
  | unfinishedSurrogate
  | loneSurrogate
  | controlCharacter
  | nestedTooDeep
  | invalidType (found : Found) (expected : String)
  | invalidValue (n : Int) (expected : String)
  | missingField (key : String)
  | duplicateField (key : String)
  | unknownVariant (name : String) (known : List String)
  | invalidLength (found : Nat) (record : String) (declared : Nat)
  | refused (reason : String)

/-- The names that are known, one, two or more of them. -/
def expectedNames : List String → String
  | [a] => s!"expected `{a}`"
  | [a, b] => s!"expected `{a}` or `{b}`"
  | names => "expected one of " ++ String.intercalate ", " (names.map fun a => s!"`{a}`")

def ReadError.message : ReadError → String
  | .endInValue => "EOF while parsing a value"
  | .endInList => "EOF while parsing a list"
  | .endInObject => "EOF while parsing an object"
  | .endInText => "EOF while parsing a string"
  | .expectedValue => "expected value"
  | .expectedWord => "expected ident"
  | .invalidNumber => "invalid number"
  | .numberOutOfRange => "number out of range"
  | .keyNotText => "key must be a string"
  | .expectedColon => "expected `:`"
  | .expectedListEnd => "expected `,` or `]`"
  | .expectedObjectEnd => "expected `,` or `\x7d`"
  | .trailingComma => "trailing comma"
  | .trailingCharacters => "trailing characters"
  | .invalidEscape => "invalid escape"
  | .unfinishedSurrogate => "unexpected end of hex escape"
  | .loneSurrogate => "lone leading surrogate in hex escape"
  | .controlCharacter => "control character (\\u0000-\\u001F) found while parsing a string"
  | .nestedTooDeep => "recursion limit exceeded"
  | .invalidType found expected => s!"invalid type: {found.describe}, expected {expected}"
  | .invalidValue n expected =>
    "invalid value: integer `" ++ String.ofList (Text.signedDecimal n) ++ s!"`, expected {expected}"
  | .missingField key => s!"missing field `{key}`"
  | .duplicateField key => s!"duplicate field `{key}`"
  | .unknownVariant name known => s!"unknown variant `{name}`, {expectedNames known}"
  | .invalidLength found record declared =>
    s!"invalid length {found}, expected struct {record} with {declared} element" ++
      (if declared = 1 then "" else "s")
  | .refused reason => reason

/-- A reader takes the beginning of a text and gives what it read and the rest. -/
abbrev Read (α : Type) : Type := Except ReadError (α × List Char)

end DeviceTwin.Json
