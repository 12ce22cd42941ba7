import DeviceTwin.Proofs.Encoding.Form
import DeviceTwin.Proofs.Text.Numeral
import DeviceTwin.Proofs.Text.Split
import DeviceTwin.Registry.Access.Credential

/-!
Tokens as they are read by whoever checks them. What is signed stands in a token in full: the resource, the signature
and the time at which it expires (`SharedAccessKey.fieldsOf_token`). The name of the key stands there as it is, which is
not how forms are written, so not every name is read as itself (`SharedAccessKey.readsBack_iff`).
-/
namespace DeviceTwin.Registry.SharedAccessKey
open DeviceTwin.Text DeviceTwin.Percent

variable {k : SharedAccessKey} {expiry : UInt64} {l : List Char}

/-! ### Reading -/

/-- The name and the text of a field, if it has a name. -/
def fieldOf (part : List Char) : Option (String × String) :=
  (splitOnce '=' part).map fun f => (String.ofList f.1, decodeForm f.2)

/-- The fields of a token, behind its scheme. -/
def fieldsOf (token : String) : List (Option (String × String)) :=
  (pieces (· = '&') (token.toList.drop tokenScheme.toList.length)).map fieldOf

/-- The fields that a signature is about. -/
def signedFields (k : SharedAccessKey) (expiry : UInt64) : List (Option (String × String)) :=
  [some ("sr", k.resource), some ("sig", String.ofList (k.signature expiry)),
    some ("se", String.ofList (decimal expiry.toNat))]

/-- A name that can stand in a form as it is. -/
structure PlainName (name : String) : Prop where
  single : '&' ∉ name.toList
  noPlus : '+' ∉ name.toList
  noEscape : ¬ HasEscape name.toList

theorem fieldOf_eq {name : List Char} (free : '=' ∉ name) (l : List Char) :
    fieldOf (name ++ '=' :: l) = some (String.ofList name, decodeForm l) := by
  rw [fieldOf, splitOnce_append free]
  rfl

theorem fieldOf_encodeForm {name : List Char} (free : '=' ∉ name) (l : List Char) :
    fieldOf (name ++ '=' :: encodeForm l) = some (String.ofList name, String.ofList l) := by
  rw [fieldOf_eq free, decodeForm_encodeForm]

/-- A field without an ampersand in it. -/
theorem free_field {name : List Char} (before : '&' ∉ name) (behind : '&' ∉ l) :
    ∀ c ∈ name ++ '=' :: l, decide (c = '&') = false := by
  intro c member
  refine decide_eq_false ?_
  rintro rfl
  rcases List.mem_append.mp member with there | there
  · exact before there
  · exact (List.mem_cons.mp there).elim (by decide) behind

/-! ### Numbers -/

theorem not_mem_decimal {c : Char} (other : c.isDigit = false) (n : Nat) : c ∉ decimal n := by
  intro member
  rw [isDigit_decimal n c member] at other
  cases other

theorem decodeForm_decimal (n : Nat) : decodeForm (decimal n) = String.ofList (decimal n) := by
  refine (decodeForm_eq_iff _).mpr ⟨not_mem_decimal rfl n, fun there => ?_⟩
  exact not_mem_decimal (c := '%') rfl n there.percent_mem

/-! ### Tokens -/

/-- A token behind its scheme. -/
def tokenBody (k : SharedAccessKey) (expiry : UInt64) : List Char :=
  "sr".toList ++ '=' :: k.encodedResource ++ '&' ::
    ("sig".toList ++ '=' :: encodeForm (k.signature expiry) ++ '&' ::
      ("se".toList ++ '=' :: decimal expiry.toNat ++ '&' :: ("skn".toList ++ '=' :: k.name.toList)))

theorem toList_token (k : SharedAccessKey) (expiry : UInt64) :
    (k.token expiry).toList = tokenScheme.toList ++ k.tokenBody expiry := by
  have sr : "sr=".toList = "sr".toList ++ ['='] := rfl
  have sig : "&sig=".toList = '&' :: "sig".toList ++ ['='] := rfl
  have se : "&se=".toList = '&' :: "se".toList ++ ['='] := rfl
  have skn : "&skn=".toList = '&' :: "skn".toList ++ ['='] := rfl
  simp only [token, tokenHead, tokenBody, String.toList_ofList, sr, sig, se, skn, List.append_assoc, List.cons_append,
    List.nil_append]

/-- The pieces of a token are the signed parts and then those of the name of the key. -/
theorem pieces_tokenBody (k : SharedAccessKey) (expiry : UInt64) :
    pieces (· = '&') (k.tokenBody expiry) =
      ("sr".toList ++ '=' :: k.encodedResource) :: ("sig".toList ++ '=' :: encodeForm (k.signature expiry)) ::
        ("se".toList ++ '=' :: decimal expiry.toNat) :: pieces (· = '&') ("skn".toList ++ '=' :: k.name.toList) := by
  have resource := free_field (show '&' ∉ "sr".toList by decide) (not_mem_encodeForm (by decide) k.resource.toList)
  have signature := free_field (show '&' ∉ "sig".toList by decide) (not_mem_encodeForm (by decide) (k.signature expiry))
  have time := free_field (show '&' ∉ "se".toList by decide) (not_mem_decimal (c := '&') rfl expiry.toNat)
  rw [tokenBody, encodedResource, pieces_append resource (by decide), pieces_append signature (by decide),
    pieces_append time (by decide)]

/-- What follows the signed fields in a token is the name of the key, as it is. -/
theorem fieldsOf_token (k : SharedAccessKey) (expiry : UInt64) :
    fieldsOf (k.token expiry) =
      k.signedFields expiry ++ (pieces (· = '&') ("skn".toList ++ '=' :: k.name.toList)).map fieldOf := by
  rw [fieldsOf, toList_token, List.drop_left, pieces_tokenBody, encodedResource]
  simp only [List.map_cons, fieldOf_encodeForm (show '=' ∉ "sr".toList by decide),
    fieldOf_encodeForm (show '=' ∉ "sig".toList by decide), fieldOf_eq (show '=' ∉ "se".toList by decide),
    decodeForm_decimal, String.ofList_toList]
  rfl

/-- The name of the key is one field, read as itself, exactly if it is a plain one. -/
theorem name_field_iff (name : String) :
    (pieces (· = '&') ("skn".toList ++ '=' :: name.toList)).map fieldOf = [some ("skn", name)] ↔ PlainName name := by
  have unnamed : '=' ∉ "skn".toList := by decide
  by_cases single : '&' ∈ name.toList
  · -- An ampersand ends the field, and something more is there, if only a part without a name.
    obtain ⟨front, back, split, _⟩ := List.eq_append_cons_of_mem single
    have parts : pieces (· = '&') ("skn".toList ++ '=' :: name.toList) =
        pieces (· = '&') ("skn".toList ++ '=' :: front) ++ pieces (· = '&') back := by
      rw [split, ← List.cons_append, ← List.append_assoc, pieces_append_cons (by decide)]
    refine ⟨fun one => ?_, fun plain => absurd single plain.single⟩
    have length := congrArg List.length one
    have first := List.length_pos_iff.mpr (pieces_ne_nil (· = '&') ("skn".toList ++ '=' :: front))
    have second := List.length_pos_iff.mpr (pieces_ne_nil (· = '&') back)
    rw [List.length_map, parts, List.length_append, List.length_singleton] at length
    omega
  · have free := free_field (show '&' ∉ "skn".toList by decide) single
    have plain := decodeForm_eq_iff name.toList
    rw [String.ofList_toList] at plain
    rw [pieces_of_free free, List.map_singleton, fieldOf_eq unnamed]
    simp only [String.ofList_toList, List.cons.injEq, and_true, Option.some.injEq, Prod.mk.injEq, true_and, plain]
    exact ⟨fun ⟨noPlus, noEscape⟩ => ⟨single, noPlus, noEscape⟩, fun plain => ⟨plain.noPlus, plain.noEscape⟩⟩

/-- A token begins with its scheme, and the resource, the signature and the time are read in it. All four fields are
    read, and no more, exactly if the name of the key is a plain one. -/
theorem readsBack_iff (k : SharedAccessKey) (expiry : UInt64) :
    tokenScheme.toList <+: (k.token expiry).toList ∧
      k.signedFields expiry <+: fieldsOf (k.token expiry) ∧
      (fieldsOf (k.token expiry) = k.signedFields expiry ++ [some ("skn", k.name)] ↔ PlainName k.name) := by
  refine ⟨?_, ?_, ?_⟩
  · rw [toList_token]
    exact List.prefix_append _ _
  · rw [fieldsOf_token]
    exact List.prefix_append _ _
  · rw [fieldsOf_token, List.append_cancel_left_eq, name_field_iff]

/-- A name with an ampersand is read as two fields, of which the second one has no name. -/
theorem ampersand_unread :
    ∃ k, ofText "h" "a&b" "c2VjcmV0a2V5MQ==" = .ok k ∧ k.name = "a&b" ∧
      fieldsOf (k.token 42) = k.signedFields 42 ++ [some ("skn", "a"), none] := by
  refine ⟨⟨"h", "a&b", utf8Bytes "secretkey1", defaultLifetime⟩, rfl, rfl, ?_⟩
  rw [fieldsOf_token, List.append_cancel_left_eq]
  decide +kernel

end DeviceTwin.Registry.SharedAccessKey
