import DeviceTwin.Proofs.Registry.Failure.Shapes

/-!
The wording of classified errors. Whatever a body is, what is taken from it is trimmed and more than blanks, and its
code is one of the table (`ErrorBody.Sound`): each reader of a part gives that, and what is put together from two sound
parts is sound. So the error of a response always has a message, and its kind is that of its code, or that of the
status if the body tells no code (`wellWorded`).
-/
namespace DeviceTwin.Registry
open DeviceTwin.Text

/-- A text that is not empty and neither begins nor ends with a blank. -/
structure IsNeat (s : String) : Prop where
  there : s ≠ ""
  first : ∀ c, s.toList.head? = some c → isBlank c = false
  last : ∀ c, s.toList.getLast? = some c → isBlank c = false

theorem isNeat_of_nonBlank? {l t : List Char} (trimmed : nonBlank? l = some t) : IsNeat (String.ofList t) := by
  rw [nonBlank?] at trimmed
  split at trimmed
  · cases trimmed
  · rename_i some_
    cases trimmed
    refine ⟨by simpa [← String.toList_inj] using some_, fun c first => ?_, fun c last => ?_⟩
    · exact isBlank_of_head? (by simpa using first)
    · exact isBlank_of_getLast? (by simpa using last)

/-! ### What a body says -/

theorem ErrorCode.known?_ne_unknown (code : ErrorCode) : code.known? ≠ some .unknown := by
  rw [known?]
  split <;> simp_all

namespace ErrorBody

/-- What is said is more than blanks, and trimmed, and a code is one of the table. -/
structure Sound (b : ErrorBody) : Prop where
  code : b.code ≠ some .unknown
  message : ∀ m, b.message = some m → IsNeat (String.ofList m)
  trackingId : ∀ id, b.trackingId = some id → IsNeat (String.ofList id)

theorem sound_empty : empty.Sound := ⟨nofun, nofun, nofun⟩

theorem of_orElse {α : Type} {a b : Option α} {x : α} (said : (a <|> b) = some x) : a = some x ∨ b = some x := by
  cases a with
  | none => exact .inr said
  | some y => exact .inl said

/-- What is put together from sound parts is sound. -/
theorem Sound.orElse {a b : ErrorBody} (first : a.Sound) (second : b.Sound) : (a.orElse b).Sound := by
  refine ⟨?_, fun m said => ?_, fun id said => ?_⟩
  · cases told : a.code with
    | none => simpa [ErrorBody.orElse, told] using second.code
    | some code => simpa [ErrorBody.orElse, told] using first.code
  · exact (of_orElse said).elim (first.message m) (second.message m)
  · exact (of_orElse said).elim (first.trackingId id) (second.trackingId id)

theorem codeOfText_ne_unknown (l : List Char) : codeOfText l ≠ some .unknown := by
  rw [codeOfText]
  split <;> exact ErrorCode.known?_ne_unknown _

theorem codeOfJson_ne_unknown (j : Json) : codeOfJson j ≠ some .unknown := by
  unfold codeOfJson
  split
  · split
    · exact ErrorCode.known?_ne_unknown _
    · nofun
  · exact codeOfText_ne_unknown _
  · nofun

theorem isNeat_textField {key : String} {fields : Fields} {t : List Char} (found : textField key fields = some t) :
    IsNeat (String.ofList t) := by
  obtain ⟨s, -, trimmed⟩ := Option.bind_eq_some_iff.mp found
  exact isNeat_of_nonBlank? trimmed

theorem isNeat_trackingOfText {l id : List Char} (found : trackingOfText l = some id) : IsNeat (String.ofList id) := by
  rw [trackingOfText] at found
  split at found
  · exact isNeat_of_nonBlank? found
  · cases found

theorem sound_ofPlainText (l : List Char) : (ofPlainText l).Sound := by
  rw [ofPlainText]
  split
  · split
    · exact ⟨codeOfText_ne_unknown _, fun _ => isNeat_of_nonBlank?, fun _ => isNeat_trackingOfText⟩
    · exact ⟨codeOfText_ne_unknown _, by simp, fun _ => isNeat_trackingOfText⟩
  · refine ⟨fun told => ?_, fun _ => isNeat_of_nonBlank?, fun _ => isNeat_trackingOfText⟩
    obtain ⟨run, -, read⟩ := List.exists_of_findSome?_eq_some told
    exact codeOfText_ne_unknown run read

/-- An object says what is sound if the texts that it holds do. -/
theorem sound_ofFields {ofText : List Char → ErrorBody} (texts : ∀ l, (ofText l).Sound) (fields : Fields) :
    (ofFields ofText fields).Sound := by
  have own : Sound ⟨(Assoc.find? "errorCode" fields).bind codeOfJson, textField "message" fields,
      textField "trackingId" fields⟩ := by
    refine ⟨fun told => ?_, fun _ => isNeat_textField, fun _ => isNeat_textField⟩
    obtain ⟨j, -, read⟩ := Option.bind_eq_some_iff.mp told
    exact codeOfJson_ne_unknown j read
  have withException {b : ErrorBody} (sound : b.Sound) : Sound { b with
      trackingId := b.trackingId <|> (textField "ExceptionMessage" fields).bind trackingOfText } := by
    refine ⟨sound.code, sound.message, fun id said => ?_⟩
    rcases of_orElse said with here | there
    · exact sound.trackingId id here
    · obtain ⟨t, -, found⟩ := Option.bind_eq_some_iff.mp there
      exact isNeat_trackingOfText found
  rw [ofFields]
  split
  · exact withException (own.orElse (texts _))
  · exact withException own

/-- A text says what is sound, however deep the objects in it are nested. -/
theorem sound_ofText (depth : Nat) (l : List Char) : (ofText depth l).Sound := by
  induction depth generalizing l with
  | zero => exact sound_ofPlainText l
  | succ depth ih =>
    rw [ofText]
    split
    · split
      · exact (sound_ofFields ih _).orElse (sound_ofPlainText _)
      · exact sound_ofPlainText l
    · exact sound_ofPlainText l

theorem sound_ofBody (body : String) : (ofBody body).Sound := by
  simp only [ofBody]
  split
  · exact sound_empty
  · split
    · exact sound_ofFields (sound_ofText _) _
    · exact sound_ofText _ _
    · exact sound_ofText _ _

end ErrorBody

/-! ### The error of a response -/

theorem isNeat_of_ends {s : String} {c d : Char} {middle : List Char} (text : s.toList = c :: middle ++ [d])
    (first : isBlank c = false) (last : isBlank d = false) : IsNeat s := by
  refine ⟨?_, fun c' first' => ?_, fun d' last' => ?_⟩
  · rintro rfl
    simp at text
  · rw [text] at first'
    cases first'
    exact first
  · rw [text, List.getLast?_concat] at last'
    cases last'
    exact last

/-- What is said for a status begins with a letter, and ends with a digit or a bracket. -/
theorem isNeat_messageOfStatus (status : Nat) : IsNeat (messageOfStatus status) := by
  have front : "Service returned status ".toList = 'S' :: "ervice returned status ".toList := by decide
  rw [messageOfStatus]
  split
  · rename_i reason _
    have text : ("Service returned status " ++ toString status ++ " (" ++ reason ++ ")").toList =
        'S' :: ("ervice returned status ".toList ++ (toString status).toList ++ " (".toList ++ reason.toList) ++
          ")".toList := by
      rw [String.toList_append, String.toList_append, String.toList_append, String.toList_append, front]
      simp
    exact isNeat_of_ends text (by decide) (by decide)
  · have digits : (toString status).toList = Nat.toDigits 10 status := by
      rw [Nat.toString_eq_repr, Nat.repr_eq_ofList_toDigits, String.toList_ofList]
    obtain ⟨leading, d, split⟩ := List.eq_nil_or_concat' (Nat.toDigits 10 status) |>.resolve_left Nat.toDigits_ne_nil
    have member : d ∈ Nat.toDigits 10 status := by simp [split]
    have digit : d.isDigit = true := Nat.isDigit_of_mem_toDigits (by decide) (by decide) member
    have text : ("Service returned status " ++ toString status).toList =
        'S' :: ("ervice returned status ".toList ++ leading) ++ [d] := by
      rw [String.toList_append, front, digits, split]
      simp
    exact isNeat_of_ends text (by decide) (ErrorBody.isBlank_of_isDigit digit)

variable {status : Nat} {body : String}

/-- The error of a response of which only status and body are known: what the body tells, and the rest of the status. -/
theorem classify_eq (status : Nat) (body : String) :
    classify status body = .service ⟨
      ((ErrorBody.ofBody body).code.elim (kindOfStatus status).1 ErrorCode.kind),
      (ErrorBody.ofBody body).code.getD .unknown,
      ((ErrorBody.ofBody body).message.map String.ofList).getD (messageOfStatus status),
      ((ErrorBody.ofBody body).code.elim (kindOfStatus status).2 ErrorCode.isTransient),
      (ErrorBody.ofBody body).trackingId.map String.ofList⟩ := by
  simp only [classify, failureOf]
  cases (ErrorBody.ofBody body).code <;> cases (ErrorBody.ofBody body).trackingId <;> rfl

/-- What is true of the wording and of the kind of the error of a response. -/
structure WellWorded (status : Nat) (body : String) : Prop where
  message : IsNeat (classify status body).message
  trackingId : ∀ id, (classify status body).trackingId = some id → IsNeat id
  /-- Without a code from the table, kind and transience are for any status those that the status has on its own. -/
  unknown_iff : (classify status body).code = .unknown ↔
    ∀ s, ((classify s body).kind, (classify s body).isTransient) = kindOfStatus s
  /-- With a code from the table, kind and transience are those of the code. -/
  known : (classify status body).code ≠ .unknown →
    (classify status body).kind = (classify status body).code.kind ∧
      (classify status body).isTransient = (classify status body).code.isTransient

theorem wellWorded (status : Nat) (body : String) : WellWorded status body := by
  have sound := ErrorBody.sound_ofBody body
  have code : (classify status body).code = (ErrorBody.ofBody body).code.getD .unknown := by
    rw [classify_eq]
    rfl
  have kind (s : Nat) : ((classify s body).kind, (classify s body).isTransient) =
      (ErrorBody.ofBody body).code.elim (kindOfStatus s) fun code => (code.kind, code.isTransient) := by
    rw [classify_eq]
    cases (ErrorBody.ofBody body).code <;> rfl
  constructor
  · rw [classify_eq]
    show IsNeat (((ErrorBody.ofBody body).message.map String.ofList).getD (messageOfStatus status))
    cases said : (ErrorBody.ofBody body).message with
    | none => exact isNeat_messageOfStatus status
    | some m => exact sound.message m said
  · intro id told
    rw [classify_eq] at told
    obtain ⟨t, said, rfl⟩ := Option.map_eq_some_iff.mp told
    exact sound.trackingId t said
  · simp only [code, kind]
    cases told : (ErrorBody.ofBody body).code with
    | none => simp
    | some known =>
      have inTable : known ≠ .unknown := fun same => sound.code (same ▸ told)
      -- The kind of a code is one for all statuses, and those of 400 and of 404 differ.
      have varies : kindOfStatus 400 ≠ kindOfStatus 404 := by decide
      simp only [Option.getD_some, inTable, Option.elim_some, false_iff]
      exact fun constant => varies ((constant 400).symm.trans (constant 404))
  · intro known
    have kind := kind status
    rw [code] at known ⊢
    cases told : (ErrorBody.ofBody body).code with
    | none => simp [told] at known
    | some known => simpa [told] using kind

end DeviceTwin.Registry
