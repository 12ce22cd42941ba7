import DeviceTwin.Proofs.Property.Envelope

/-!
Envelopes that others have written. What is read of an envelope is in it, each part under its own key
(`AckStyle.tells_of_decode`), and an envelope is refused for a part that is missing or of the wrong kind
(`AckStyle.decode_error_iff`). Only the description is not judged: one that is no text is read as none, and then the
acknowledgement keeps less than the envelope has told (`AckStyle.decode_keeps_iff`).
-/
namespace DeviceTwin

theorem AckCode.ofStatus?_eq_some {n : Nat} {code : AckCode} (known : ofStatus? n = some code) : n = code.status := by
  unfold ofStatus? at known
  split at known <;> cases known <;> rfl

theorem Json.eq_int_of_int? {j : Json} {n : Int} (whole : j.int? = some n) : j = .int n := by
  unfold Json.int? at whole
  split at whole
  · cases whole
    rfl
  · cases whole

/-- A version is the integer that it was read from. -/
theorem Json.eq_int_of_int64? {j : Json} {version : Int64} (whole : j.int64? = some version) :
    j = .int version.toInt := by
  unfold Json.int64? at whole
  split at whole
  · next n found =>
    split at whole
    · next bounds =>
      cases whole
      rw [Json.eq_int_of_int? found, Int64.toInt_ofInt_of_le bounds.1 bounds.2]
    · cases whole
  · cases whole

namespace AckStyle
variable {style : AckStyle} {envelope : Json} {ack : Ack}

/-- A code is the integer that it was read from. -/
theorem eq_int_of_code? {j : Json} {code : AckCode} (whole : code? j = some code) : j = .int code.status := by
  unfold code? at whole
  split at whole
  · next n found =>
    split at whole
    · next positive =>
      have status : n.toNat = code.status := AckCode.ofStatus?_eq_some whole
      rw [Json.eq_int_of_int? found, ← status, Int.toNat_of_nonneg positive]
    · cases whole
  · cases whole

/-! ### What an envelope tells -/

/-- The keys of an envelope. -/
def keys (style : AckStyle) : List String :=
  [style.valueKey, style.codeKey, style.versionKey, style.descriptionKey]

/-- What an envelope tells under a key. A description that is `null` is none. -/
def told? (style : AckStyle) (key : String) (envelope : Json) : Option Json :=
  (envelope.get? key).filter fun j => key ≠ style.descriptionKey || !j.isNull

/-- An acknowledgement tells under every key what the envelope has told there. -/
def Keeps (style : AckStyle) (envelope : Json) (ack : Ack) : Prop :=
  ∀ key ∈ style.keys, style.told? key (style.encode ack) = style.told? key envelope

/-- An envelope tells the value, the code and the version of an acknowledgement. -/
structure Tells (style : AckStyle) (envelope : Json) (ack : Ack) : Prop where
  value : envelope.get? style.valueKey = some ack.value
  code : envelope.get? style.codeKey = some (.int ack.code.status)
  version : envelope.get? style.versionKey = some (.int ack.version.toInt)

/-- The description in an envelope is a text, if there is one. -/
def Described (style : AckStyle) (envelope : Json) : Prop :=
  ∀ j, style.told? style.descriptionKey envelope = some j → ∃ s, j = .str s

/-- Why an object is no envelope: what comes first among the parts that are missing or of the wrong kind. -/
inductive Faulty (style : AckStyle) (envelope : Json) : TwinError → Prop where
  | object (other : envelope.isObject = false) : Faulty style envelope .envelopeNotObject
  | value (object : envelope.isObject = true) (absent : envelope.get? style.valueKey = none) :
      Faulty style envelope (.envelopeWithout style.valueKey)
  | code {v : Json} (value : envelope.get? style.valueKey = some v)
      (unfit : ∀ code : AckCode, envelope.get? style.codeKey ≠ some (.int code.status)) :
      Faulty style envelope (.envelopeInvalid style.codeKey)
  | version {v : Json} {code : AckCode} (value : envelope.get? style.valueKey = some v)
      (code : envelope.get? style.codeKey = some (.int code.status))
      (unfit : ∀ version : Int64, envelope.get? style.versionKey ≠ some (.int version.toInt)) :
      Faulty style envelope (.envelopeInvalid style.versionKey)

/-! ### Reading -/

/-- If something is read of one value only, then it is this value that is told. -/
theorem bind_eq_some_iff_told {α : Type} {read : Json → Option α} {told : Option Json} {j : Json} {a : α}
    (reads : read j = some a) (only : ∀ k, read k = some a → k = j) : told.bind read = some a ↔ told = some j := by
  constructor
  · intro found
    obtain ⟨k, rfl, here⟩ := Option.bind_eq_some_iff.1 found
    rw [only k here]
  · rintro rfl
    exact reads

theorem bind_code?_eq_some {told : Option Json} {code : AckCode} :
    told.bind code? = some code ↔ told = some (.int code.status) :=
  bind_eq_some_iff_told (code?_status code) fun _ => eq_int_of_code?

theorem bind_int64?_eq_some {told : Option Json} {version : Int64} :
    told.bind Json.int64? = some version ↔ told = some (.int version.toInt) :=
  bind_eq_some_iff_told (int64?_toInt version) fun _ => Json.eq_int_of_int64?

/-- An object is read as what it tells, with the description if this is a text. -/
theorem decode_of_tells (tells : style.Tells envelope ack)
    (description : ack.description = (envelope.get? style.descriptionKey).bind Json.text?) :
    style.decode envelope = .ok ack := by
  cases envelope with
  | obj fields =>
    have value : Assoc.find? style.valueKey fields = some ack.value := tells.value
    have code : (Assoc.find? style.codeKey fields).bind code? = some ack.code := bind_code?_eq_some.2 tells.code
    have version : (Assoc.find? style.versionKey fields).bind Json.int64? = some ack.version :=
      bind_int64?_eq_some.2 tells.version
    have text : (Assoc.find? style.descriptionKey fields).bind Json.text? = ack.description := description.symm
    simp only [decode, value, code, version, text]
  | _ => cases tells.value

/-- What is wrong with an object is said. -/
theorem decode_of_faulty {e : TwinError} (faulty : style.Faulty envelope e) : style.decode envelope = .error e := by
  cases envelope with
  | obj fields =>
    cases faulty with
    | object other => cases other
    | value object absent =>
      have absent : Assoc.find? style.valueKey fields = none := absent
      simp only [decode, absent]
    | code value unfit =>
      have value : Assoc.find? style.valueKey fields = some _ := value
      have code : (Assoc.find? style.codeKey fields).bind code? = none :=
        Option.eq_none_iff_forall_ne_some.2 fun _ read => unfit _ (bind_code?_eq_some.1 read)
      simp only [decode, value, code]
    | version value code unfit =>
      have value : Assoc.find? style.valueKey fields = some _ := value
      have code : (Assoc.find? style.codeKey fields).bind code? = some _ := bind_code?_eq_some.2 code
      have version : (Assoc.find? style.versionKey fields).bind Json.int64? = none :=
        Option.eq_none_iff_forall_ne_some.2 fun _ read => unfit _ (bind_int64?_eq_some.1 read)
      simp only [decode, value, code, version]
  | _ =>
    cases faulty with
    | object => rfl
    | value object => cases object
    | code value => cases value
    | version value => cases value

/-- An envelope tells an acknowledgement, or something is wrong with it. -/
theorem tells_or_faulty (style : AckStyle) (envelope : Json) :
    (∃ ack, style.Tells envelope ack ∧ ack.description = (envelope.get? style.descriptionKey).bind Json.text?) ∨
      ∃ e, style.Faulty envelope e := by
  cases value : envelope.get? style.valueKey with
  | none =>
    cases object : envelope.isObject with
    | false => exact .inr ⟨_, .object object⟩
    | true => exact .inr ⟨_, .value object value⟩
  | some v =>
    by_cases fits : ∃ code : AckCode, envelope.get? style.codeKey = some (.int code.status)
    · obtain ⟨code, isCode⟩ := fits
      by_cases fits' : ∃ version : Int64, envelope.get? style.versionKey = some (.int version.toInt)
      · obtain ⟨version, isVersion⟩ := fits'
        exact .inl ⟨⟨v, code, version, _⟩, ⟨value, isCode, isVersion⟩, rfl⟩
      · exact .inr ⟨_, .version value isCode (not_exists.1 fits')⟩
    · exact .inr ⟨_, .code value (not_exists.1 fits)⟩

/-- What is read of an envelope is in it. -/
theorem tells_of_decode (decoded : style.decode envelope = .ok ack) :
    style.Tells envelope ack ∧ ack.description = (envelope.get? style.descriptionKey).bind Json.text? := by
  rcases tells_or_faulty style envelope with ⟨told, tells, description⟩ | ⟨e, faulty⟩
  · rw [decode_of_tells tells description, Except.ok.injEq] at decoded
    exact decoded ▸ ⟨tells, description⟩
  · rw [decode_of_faulty faulty] at decoded
    cases decoded

/-- An envelope is refused for what is wrong with it. -/
theorem decode_error_iff {e : TwinError} : style.decode envelope = .error e ↔ style.Faulty envelope e := by
  constructor
  · intro failed
    rcases tells_or_faulty style envelope with ⟨told, tells, description⟩ | ⟨e', faulty⟩
    · rw [decode_of_tells tells description] at failed
      cases failed
    · rw [decode_of_faulty faulty, Except.error.injEq] at failed
      exact failed ▸ faulty
  · exact decode_of_faulty

/-! ### What is kept -/

theorem get?_encode (style : AckStyle) (ack : Ack) :
    (style.encode ack).get? style.valueKey = some ack.value ∧
    (style.encode ack).get? style.codeKey = some (.int ack.code.status) ∧
    (style.encode ack).get? style.versionKey = some (.int ack.version.toInt) ∧
    (style.encode ack).get? style.descriptionKey = ack.description.map .str := by
  obtain ⟨value, code, version, description⟩ := ack
  cases style <;> cases description <;>
    simp [encode, Json.get?, Assoc.find?, valueKey, codeKey, versionKey, descriptionKey]

/-- The acknowledgement keeps the description exactly if this is a text. -/
theorem told?_description (description : ack.description = (envelope.get? style.descriptionKey).bind Json.text?) :
    style.told? style.descriptionKey (style.encode ack) = style.told? style.descriptionKey envelope ↔
      style.Described envelope := by
  rw [told?, (get?_encode style ack).2.2.2, description]
  unfold Described told?
  cases envelope.get? style.descriptionKey with
  | none => simp
  | some j => cases j <;> simp [Json.text?, Option.filter, Json.isNull]

/-- What an acknowledgement keeps of the envelope that it is read from: the value, the code and the version in any case,
    and everything exactly if nothing but a text or `null` stands in the place of the description. What is no envelope
    is refused for what is wrong with it. -/
theorem decode_keeps_iff (style : AckStyle) (envelope : Json) :
    (∀ ack, style.decode envelope = .ok ack →
      style.Tells envelope ack ∧ (style.Keeps envelope ack ↔ style.Described envelope)) ∧
    ∀ e, style.decode envelope = .error e ↔ style.Faulty envelope e := by
  refine ⟨fun ack decoded => ?_, fun e => decode_error_iff⟩
  obtain ⟨tells, description⟩ := tells_of_decode decoded
  obtain ⟨value, code, version, _⟩ := get?_encode style ack
  refine ⟨tells, ?_⟩
  rw [← told?_description description]
  have kept : style.told? style.valueKey (style.encode ack) = style.told? style.valueKey envelope ∧
      style.told? style.codeKey (style.encode ack) = style.told? style.codeKey envelope ∧
      style.told? style.versionKey (style.encode ack) = style.told? style.versionKey envelope := by
    simp only [told?, value, code, version, tells.value, tells.code, tells.version, and_self]
  simp [Keeps, keys, kept]

/-- An envelope with a description that is `null` and with a field of its own is kept. -/
theorem decode_keeps_structured :
    ∃ ack, structured.decode (.obj [("note", .bool true), ("ackDescription", .null), ("ackVersion", .int (-3)),
        ("value", .arr [.null]), ("ackCode", .int 202)]) = .ok ack ∧
      structured.Keeps (.obj [("note", .bool true), ("ackDescription", .null), ("ackVersion", .int (-3)),
        ("value", .arr [.null]), ("ackCode", .int 202)]) ack := by
  have decoded : structured.decode (.obj [("note", .bool true), ("ackDescription", .null), ("ackVersion", .int (-3)),
      ("value", .arr [.null]), ("ackCode", .int 202)]) = .ok ⟨.arr [.null], .inProgress, -3, none⟩ := rfl
  refine ⟨_, decoded, (((decode_keeps_iff _ _).1 _ decoded).2).2 ?_⟩
  intro j told
  cases told

/-- A number in the place of the description is dropped. -/
theorem description_dropped :
    ∃ ack,
      twinCollection.decode (.obj [("value", .int 1), ("ac", .int 200), ("av", .int 3), ("ad", .int 5)]) = .ok ack ∧
      twinCollection.told? "ad" (.obj [("value", .int 1), ("ac", .int 200), ("av", .int 3), ("ad", .int 5)]) =
        some (.int 5) ∧
      twinCollection.told? "ad" (twinCollection.encode ack) = none :=
  ⟨⟨.int 1, .completed, 3, none⟩, rfl, rfl, rfl⟩

end AckStyle
end DeviceTwin
