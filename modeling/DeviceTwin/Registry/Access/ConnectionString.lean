import DeviceTwin.Registry.Failure.Error
import DeviceTwin.Text.Blank
import DeviceTwin.Text.Split

/-!
Connection strings: settings separated by semicolons, each a key and a value with an equals sign between them. Blanks
do not count around segments, keys and values; unknown keys are passed over, and the last value of a key counts.
-/
namespace DeviceTwin.Registry
open DeviceTwin.Text

structure ConnectionString where
  hostName : String
  keyName : String
  key : String
deriving DecidableEq

namespace ConnectionString

/-- A key and a value, both trimmed. -/
abbrev Setting : Type := List Char × List Char

/-- The segments that are more than blanks, trimmed. -/
def segments (l : List Char) : List (List Char) :=
  (pieces (· = ';') l).filterMap nonBlank?

/-- The setting of a segment; its value may hold equals signs too. -/
def settingOf (segment : List Char) : Except RegistryError Setting :=
  match splitOnce '=' segment with
  | some (key, value) => .ok (trimChars key, trimChars value)
  | none => .error (.malformedSetting (String.ofList segment))

def settingsOf : List (List Char) → Except RegistryError (List Setting)
  | [] => .ok []
  | segment :: rest => do
    let setting ← settingOf segment
    let settings ← settingsOf rest
    pure (setting :: settings)

/-- The last value of a key, unless it is empty. -/
def lastValue? (key : List Char) (settings : List Setting) : Option (List Char) :=
  match (settings.filter fun s => s.1 = key).getLast? with
  | some (_, value) => if value.isEmpty then none else some value
  | none => none

def requireValue (key : String) (settings : List Setting) : Except RegistryError String :=
  match lastValue? key.toList settings with
  | some value => .ok (String.ofList value)
  | none => .error (.missingSetting key)

/-- The connection string of a text. -/
def ofText (s : String) : Except RegistryError ConnectionString := do
  let settings ← settingsOf (segments s.toList)
  let hostName ← requireValue "HostName" settings
  let keyName ← requireValue "SharedAccessKeyName" settings
  let key ← requireValue "SharedAccessKey" settings
  pure ⟨hostName, keyName, key⟩

end ConnectionString
end DeviceTwin.Registry
