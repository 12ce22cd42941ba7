import DeviceTwin.Proofs.Registry.Access.Token
import DeviceTwin.Proofs.Text.Utf8

/-!
What a signature is about. The two lines that are signed are those of one resource and one time only, since a resource
is found again in its form and a form has no line break in it (`SharedAccessKey.signedText_eq_iff`). Both lines stand in
the token as they were signed, so whoever reads them there signs the same text again (`SharedAccessKey.signedOnly`).
-/
namespace DeviceTwin.Registry.SharedAccessKey
open DeviceTwin.Text DeviceTwin.Percent

variable {k k' : SharedAccessKey} {expiry expiry' : UInt64}

/-- The name of a field and what stands behind it. -/
def printedField (part : List Char) : Option (String × List Char) :=
  (splitOnce '=' part).map fun f => (String.ofList f.1, f.2)

/-- The fields of a token, behind its scheme, as they stand there. -/
def printedFields (token : String) : List (String × List Char) :=
  (pieces (· = '&') (token.toList.drop tokenScheme.toList.length)).filterMap printedField

/-- What stands behind the first field of a name. -/
def printed? (token name : String) : Option (List Char) :=
  ((printedFields token).find? (·.1 = name)).map (·.2)

/-- The text that is signed again to check a token: the resource and the time, as they stand in the token. -/
def signedAgain? (token : String) : Option (List Char) :=
  (printed? token "sr").bind fun resource => (printed? token "se").map fun time => resource ++ '\n' :: time

/-- The signature of a text, as it stands in a token. -/
def printedSignature (key : List UInt8) (text : List Char) : List Char :=
  encodeForm (Base64.encode (Sha256.hmac key (text.flatMap utf8)))

/-- A token holds what was signed, which is the text of no other resource and of no other time. -/
structure SignedOnly (k : SharedAccessKey) (expiry : UInt64) : Prop where
  resource : printed? (k.token expiry) "sr" = some k.encodedResource
  time : printed? (k.token expiry) "se" = some (decimal expiry.toNat)
  again : signedAgain? (k.token expiry) = some (k.signedText expiry)
  accepted : (signedAgain? (k.token expiry)).map (printedSignature k.key) = printed? (k.token expiry) "sig"
  /-- What is signed for another resource or another time are other bytes. -/
  distinct : ∀ (k' : SharedAccessKey) (expiry' : UInt64),
    (k'.signedText expiry').flatMap utf8 = (k.signedText expiry).flatMap utf8 ↔
      k'.resource = k.resource ∧ expiry' = expiry
  noOther : ∀ (k' : SharedAccessKey) (expiry' : UInt64),
    signedAgain? (k.token expiry) = some (k'.signedText expiry') ↔ k'.resource = k.resource ∧ expiry' = expiry

/-! ### The text -/

theorem encodedResource_eq_iff : k.encodedResource = k'.encodedResource ↔ k.resource = k'.resource :=
  encodeForm_injective.eq_iff.trans String.toList_inj

/-- The two lines of a text are those of no other resource and time. -/
theorem signedText_eq_iff :
    k.signedText expiry = k'.signedText expiry' ↔ k.resource = k'.resource ∧ expiry = expiry' := by
  have lines (k : SharedAccessKey) (expiry : UInt64) :
      splitOnce '\n' (k.signedText expiry) = some (k.encodedResource, decimal expiry.toNat) :=
    splitOnce_append (not_mem_encodeForm (by decide) k.resource.toList) _
  constructor
  · intro same
    have parts := lines k expiry
    rw [same, lines, Option.some.injEq, Prod.mk.injEq] at parts
    exact ⟨encodedResource_eq_iff.mp parts.1.symm, UInt64.toNat_inj.mp (decimal_injective parts.2.symm)⟩
  · rintro ⟨resource, rfl⟩
    rw [signedText, signedText, encodedResource_eq_iff.mpr resource]

/-! ### The token -/

theorem printedField_eq {name : List Char} (free : '=' ∉ name) (l : List Char) :
    printedField (name ++ '=' :: l) = some (String.ofList name, l) := by
  rw [printedField, splitOnce_append free]
  rfl

/-- The signed parts and the signature stand in front of the name of the key. -/
theorem printedFields_token (k : SharedAccessKey) (expiry : UInt64) :
    ∃ behind, printedFields (k.token expiry) =
      ("sr", k.encodedResource) :: ("sig", encodeForm (k.signature expiry)) :: ("se", decimal expiry.toNat) ::
        behind := by
  refine ⟨(pieces (· = '&') ("skn".toList ++ '=' :: k.name.toList)).filterMap printedField, ?_⟩
  rw [printedFields, toList_token, List.drop_left, pieces_tokenBody]
  simp only [List.filterMap_cons, printedField_eq (show '=' ∉ "sr".toList by decide),
    printedField_eq (show '=' ∉ "sig".toList by decide), printedField_eq (show '=' ∉ "se".toList by decide),
    String.ofList_toList]

/-- A token is signed for its own resource and time and for no other ones, whatever the name of the key is. -/
theorem signedOnly (k : SharedAccessKey) (expiry : UInt64) : SignedOnly k expiry := by
  obtain ⟨behind, fields⟩ := printedFields_token k expiry
  have resource : printed? (k.token expiry) "sr" = some k.encodedResource := by
    rw [printed?, fields]
    rfl
  have time : printed? (k.token expiry) "se" = some (decimal expiry.toNat) := by
    rw [printed?, fields]
    rfl
  have again : signedAgain? (k.token expiry) = some (k.signedText expiry) := by
    rw [signedAgain?, resource, time]
    rfl
  refine ⟨resource, time, again, ?_, fun k' expiry' => ?_, fun k' expiry' => ?_⟩
  · rw [again, printed?, fields]
    rfl
  · rw [← signedText_eq_iff]
    exact ⟨flatMap_utf8_injective, congrArg (List.flatMap utf8)⟩
  · rw [again, Option.some.injEq, eq_comm, signedText_eq_iff]

end DeviceTwin.Registry.SharedAccessKey
