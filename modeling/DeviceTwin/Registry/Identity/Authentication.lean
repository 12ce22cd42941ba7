import DeviceTwin.Registry.JsonForm

/-!
How a device or a module proves who it is: with one of two symmetric keys, or with a certificate.
-/
namespace DeviceTwin.Registry

inductive AuthenticationType where
  /-- With symmetric keys. -/
  | sas
  /-- With certificates that are known by their thumbprints. -/
  | selfSigned
  | certificateAuthority
  | none
deriving DecidableEq

def AuthenticationType.name : AuthenticationType → String
  | .sas => "sas"
  | .selfSigned => "selfSigned"
  | .certificateAuthority => "certificateAuthority"
  | .none => "none"

instance : Named AuthenticationType :=
  ⟨[.sas, .selfSigned, .certificateAuthority, .none], AuthenticationType.name, .sas⟩

structure SymmetricKey where
  primaryKey : Option String
  secondaryKey : Option String
deriving DecidableEq

instance : JsonForm SymmetricKey where
  schema := .record "SymmetricKey" [possible String "primaryKey", possible String "secondaryKey"]
  toJson k := .obj (field? "primaryKey" k.primaryKey ++ field? "secondaryKey" k.secondaryKey)
  ofJson j := ⟨valueOf? "primaryKey" j, valueOf? "secondaryKey" j⟩

/-- The thumbprints of two certificates. -/
structure Thumbprint where
  primaryThumbprint : Option String
  secondaryThumbprint : Option String
deriving DecidableEq

instance : JsonForm Thumbprint where
  schema := .record "X509Thumbprint" [possible String "primaryThumbprint", possible String "secondaryThumbprint"]
  toJson t :=
    .obj (field? "primaryThumbprint" t.primaryThumbprint ++ field? "secondaryThumbprint" t.secondaryThumbprint)
  ofJson j := ⟨valueOf? "primaryThumbprint" j, valueOf? "secondaryThumbprint" j⟩

structure Authentication where
  symmetricKey : Option SymmetricKey
  thumbprint : Option Thumbprint
  type : AuthenticationType
deriving DecidableEq

instance : JsonForm Authentication where
  schema := .record "AuthenticationMechanism"
    [possible SymmetricKey "symmetricKey", possible Thumbprint "x509Thumbprint",
     orDefault "type" AuthenticationType.sas]
  toJson a := .obj <|
    field? "symmetricKey" a.symmetricKey ++ field? "x509Thumbprint" a.thumbprint ++ field "type" a.type
  ofJson j := ⟨valueOf? "symmetricKey" j, valueOf? "x509Thumbprint" j, valueOf "type" j⟩

namespace Authentication

/-- With symmetric keys; the service makes those that are left out. -/
def ofSymmetricKey (key : SymmetricKey) : Authentication := ⟨some key, none, .sas⟩

def ofThumbprint (thumbprint : Thumbprint) : Authentication := ⟨none, some thumbprint, .selfSigned⟩

end Authentication

end DeviceTwin.Registry
