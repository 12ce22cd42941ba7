import DeviceTwin.Duration
import DeviceTwin.Encoding.Percent
import DeviceTwin.Encoding.Sha256
import DeviceTwin.Registry.Failure.Error
import DeviceTwin.Text.Blank
import DeviceTwin.Text.Quoted

/-!
Shared access signatures. A credential signs a resource and the time at which the signature expires; the token that it
makes holds both, the signature, and the name of the key.
-/
namespace DeviceTwin.Registry
open DeviceTwin.Text

structure SharedAccessKey where
  /-- The name of the host that the key gives access to. -/
  resource : String
  name : String
  key : List UInt8
  /-- How long a token is valid. -/
  lifetime : Duration

namespace SharedAccessKey

/-- The lifetime of a token where no other one is chosen. -/
def defaultLifetime : Duration := .ofSeconds 3600

/-- The credential of a key in Base64, which may have blanks around it. -/
def ofText (resource name key : String) : Except RegistryError SharedAccessKey :=
  match Base64.decode (utf8Bytes (trim key)) with
  | .ok bytes => .ok ⟨resource, name, bytes, defaultLifetime⟩
  | .error e => .error (.unreadableKey e)

/-- The resource as it is signed and as a token holds it. -/
def encodedResource (k : SharedAccessKey) : List Char :=
  Percent.encodeForm k.resource.toList

/-- What is signed: the resource and the time in seconds since 1970, on lines of their own. -/
def signedText (k : SharedAccessKey) (expiry : UInt64) : List Char :=
  k.encodedResource ++ '\n' :: decimal expiry.toNat

/-- The signature in Base64. -/
def signature (k : SharedAccessKey) (expiry : UInt64) : List Char :=
  Base64.encode (Sha256.hmac k.key ((k.signedText expiry).flatMap utf8))

/-- What every token begins with. -/
def tokenScheme : String := "SharedAccessSignature "

/-- The token up to the signature. -/
def tokenHead (k : SharedAccessKey) : List Char :=
  tokenScheme.toList ++ "sr=".toList ++ k.encodedResource

/-- The token that expires at a time. -/
def token (k : SharedAccessKey) (expiry : UInt64) : String :=
  String.ofList <|
    k.tokenHead ++ "&sig=".toList ++ Percent.encodeForm (k.signature expiry) ++ "&se=".toList ++
      decimal expiry.toNat ++ "&skn=".toList ++ k.name.toList

/-- The credential as it is shown, without its key. -/
def describe (k : SharedAccessKey) : String :=
  "SharedAccessKeyCredential \x7b resource: " ++ quoted k.resource ++ ", key_name: " ++ quoted k.name ++
    ", ttl: " ++ k.lifetime.describe ++ ", .. \x7d"

end SharedAccessKey
end DeviceTwin.Registry
