import DeviceTwin.Proofs.Registry.Failure.Nesting
import DeviceTwin.Proofs.Registry.Failure.Wording

/-!
What is found in a free text. A text tells a code by a run of six digits and an identifier behind a mark; but where an
object is embedded in it, the object is read as a body of its own, and of the text only what stands in front of the
object is looked through (`ofBody_of_embeds`). So a code or an identifier is overlooked exactly when it stands in or
behind an embedded object that tells none of its own (`foundIn_iff`).
-/
namespace DeviceTwin.Registry
open DeviceTwin.Json DeviceTwin.Text

/-- A text holds a code of the table: six digits, with none next to them, that are the value of one. -/
def HoldsCode (l : List Char) : Prop :=
  ∃ before run behind, l = before ++ (run ++ behind) ∧ Digits run ∧ run.length = 6 ∧
    (∀ c, before.getLast? = some c → c.isDigit = false) ∧ (∀ c, behind.head? = some c → c.isDigit = false) ∧
    ∃ code ∈ ErrorCode.all, ofDecimalFrom 0 run = code.value

/-- The first mark of an identifier in a text is directly followed by a character that does not end one. -/
def MarksId (l : List Char) : Prop :=
  ∃ before c behind, l = before ++ (ErrorBody.trackingMark ++ c :: behind) ∧ ¬ ErrorBody.trackingMark <:+: before ∧
    ErrorBody.endsTracking c = false

/-- A body that is neither an object nor a text, and in which no code is marked. -/
structure IsFreeText (body : String) : Prop where
  noObject : ∀ fields, Json.parse (trim body) ≠ .ok (.obj fields)
  noText : ∀ s, Json.parse (trim body) ≠ .ok (.str s)
  unmarked : ¬ ErrorBody.codeMark <:+: body.toList

/-- What a text holds from its first opening brace to its last closing brace is an object. -/
structure Embeds (l before object : List Char) : Prop where
  place : ∃ behind, l = before ++ object ++ behind ∧ '\x7d' ∉ behind
  noBrace : '\x7b' ∉ before
  braces : ∃ inside, object = '\x7b' :: inside ++ ['\x7d']
  isObject : ∃ fields, Json.parse (String.ofList object) = .ok (.obj fields)

/-- Nothing that a body holds is overlooked. -/
structure FoundIn (status : Nat) (body : String) : Prop where
  code : HoldsCode body.toList → (classify status body).code ≠ .unknown
  trackingId : MarksId body.toList → (classify status body).trackingId ≠ none

theorem ErrorCode.isSome_known?_ofValue {value : Nat} :
    (ofValue value).known?.isSome ↔ ∃ code ∈ all, value = code.value := by
  constructor
  · intro known
    cases found : all.find? fun code => code.value = value with
    | none =>
      rw [ofValue, found] at known
      cases known
    | some code =>
      have value : code.value = value := by simpa using List.find?_some found
      exact ⟨code, List.mem_of_find?_eq_some found, value.symm⟩
  · rintro ⟨code, listed, rfl⟩
    rw [ofValue_value listed, known?_of_mem listed]
    rfl

namespace ErrorBody

variable {l l' before object behind run : List Char} {x : Char} {body : String} {fields : Fields}

/-! ### Codes -/

/-- Six digits are read as the code of which they are the value. -/
theorem isSome_codeOfText_iff (digits : Digits run) (six : run.length = 6) :
    (codeOfText run).isSome ↔ ∃ code ∈ ErrorCode.all, ofDecimalFrom 0 run = code.value := by
  have trimmed : trimChars run = run := trimChars_of_forall fun c member => isBlank_of_isDigit (digits c member)
  have small : ofDecimalFrom 0 run < 0x100000000 := by
    have bound := ofDecimalFrom_lt digits 0
    rw [six] at bound
    omega
  have number : natural? run = some (ofDecimalFrom 0 run) := by
    cases run with
    | nil => cases six
    | cons c run =>
      have digit := (digits_cons.mp digits).1
      have allDigits : (c :: run).any (fun c => !c.isDigit) = false := by simpa [Digits] using digits
      rw [natural?_eq (by rintro rfl; cases digit), ofDecimal?, allDigits]
      exact if_pos (decide_eq_true small)
  rw [codeOfText, trimmed, number, ← ErrorCode.isSome_known?_ofValue]

theorem codeRuns_append_cons (noDigit : x.isDigit = false) (l l' : List Char) :
    codeRuns (l ++ x :: l') = codeRuns l ++ codeRuns l' := by
  rw [codeRuns, pieces_append_cons (by simp [noDigit]), List.filter_append]
  rfl

theorem holdsCode_iff : HoldsCode l ↔ ∃ run ∈ codeRuns l, (codeOfText run).isSome := by
  have member : ∀ run, run ∈ codeRuns l ↔ run ∈ pieces (fun c => !c.isDigit) l ∧ run.length = 6 := by simp [codeRuns]
  constructor
  · rintro ⟨before, run, behind, text, digits, six, begins, ends, code⟩
    have piece : run ∈ pieces (fun c => !c.isDigit) l := by
      refine mem_pieces_iff.mpr ⟨before, behind, text, ?_, by simpa using begins, by simpa using ends⟩
      simpa [Digits] using digits
    exact ⟨run, (member run).mpr ⟨piece, six⟩, (isSome_codeOfText_iff digits six).mpr code⟩
  · rintro ⟨run, there, read⟩
    obtain ⟨piece, six⟩ := (member run).mp there
    obtain ⟨before, behind, text, digits, begins, ends⟩ := mem_pieces_iff.mp piece
    have digits : Digits run := by simpa [Digits] using digits
    exact ⟨before, run, behind, text, digits, six, by simpa using begins, by simpa using ends,
      (isSome_codeOfText_iff digits six).mp read⟩

theorem isDigit_of_isBlank {c : Char} (blank : isBlank c = true) : c.isDigit = false := by
  rw [Bool.eq_false_iff]
  intro digit
  rw [isBlank_of_isDigit digit] at blank
  cases blank

/-- Blanks around a text are no part of a code. -/
theorem holdsCode_trimChars (holds : HoldsCode l) : HoldsCode (trimChars l) := by
  refine trimChars_induction holds (fun c l blank there => ?_) (fun c l blank there => ?_)
  · rw [holdsCode_iff, ← List.nil_append (c :: l), codeRuns_append_cons (isDigit_of_isBlank blank)] at there
    exact holdsCode_iff.mpr there
  · rw [holdsCode_iff, codeRuns_append_cons (isDigit_of_isBlank blank)] at there
    exact holdsCode_iff.mpr (by simpa [codeRuns, pieces] using there)

theorem isSome_code_ofPlainText (unmarked : ¬ codeMark <:+: l) : (ofPlainText l).code.isSome ↔ HoldsCode l := by
  rw [ofPlainText, splitAtWord_eq_none unmarked, holdsCode_iff]
  exact List.findSome?_isSome_iff

/-! ### Identifiers -/

theorem trackingId_ofPlainText (l : List Char) : (ofPlainText l).trackingId = trackingOfText l := by
  rw [ofPlainText]
  split
  · split <;> rfl
  · rfl

theorem splitAtWord_trackingMark {rest : List Char} :
    splitAtWord trackingMark l = some (before, rest) ↔
      l = before ++ (trackingMark ++ rest) ∧ ¬ trackingMark <:+: before := by
  have mark : trackingMark = 'T' :: ['r', 'a', 'c', 'k', 'i', 'n', 'g', ' ', 'I', 'D', ':'] := by decide
  rw [mark]
  exact splitAtWord_eq_some (by decide)

/-- What directly follows the first mark is part of an identifier. -/
theorem isSome_trackingOfText (marks : MarksId l) : (trackingOfText l).isSome := by
  obtain ⟨before, c, behind, text, first, goesOn⟩ := marks
  have visible {d : Char} (goesOn : endsTracking d = false) : isBlank d = false := by
    simp only [endsTracking, Bool.or_eq_false_iff] at goesOn
    exact goesOn.1.1
  have kept : ((c :: behind).dropWhile isBlank).takeWhile (fun d => !endsTracking d) =
      c :: behind.takeWhile fun d => !endsTracking d := by
    rw [List.dropWhile_cons_of_neg (by simp [visible goesOn]), List.takeWhile_cons_of_pos (by simp [goesOn])]
  have trimmed : trimChars (c :: behind.takeWhile fun d => !endsTracking d) =
      c :: behind.takeWhile fun d => !endsTracking d := by
    refine trimChars_of_forall fun d member => ?_
    rcases List.mem_cons.mp member with rfl | later
    · exact visible goesOn
    · exact visible (by simpa using List.mem_takeWhile_imp later)
  rw [trackingOfText, splitAtWord_trackingMark.mpr ⟨text, first⟩]
  simp only [kept]
  rw [nonBlank?_of_ne_nil (by rw [trimmed]; exact List.cons_ne_nil _ _)]
  rfl

/-- An identifier that is found in front of a text is marked there. -/
theorem marksId_of_append (marks : MarksId (l ++ l')) (told : (trackingOfText l).isSome) : MarksId l := by
  obtain ⟨before, c, behind, text, first, goesOn⟩ := marks
  cases found : splitAtWord trackingMark l with
  | none =>
    rw [trackingOfText, found] at told
    cases told
  | some parts =>
    obtain ⟨before', rest⟩ := parts
    obtain ⟨rfl, first'⟩ := splitAtWord_trackingMark.mp found
    -- The first mark of both texts is the same one.
    have here : before' ++ (trackingMark ++ rest) ++ l' = before' ++ (trackingMark ++ (rest ++ l')) := by
      simp only [List.append_assoc]
    have same := (splitAtWord_trackingMark.mpr ⟨text, first⟩).symm.trans
      (splitAtWord_trackingMark.mpr ⟨here, first'⟩)
    obtain ⟨rfl, next⟩ := Prod.mk.inj (Option.some.inj same)
    cases rest with
    | nil =>
      rw [trackingOfText, found] at told
      cases told
    | cons d rest =>
      obtain ⟨rfl, -⟩ := List.cons.inj next
      exact ⟨before, c, rest, rfl, first, goesOn⟩

/-- Blanks around a text are no part of an identifier or of its mark. -/
theorem marksId_trimChars (marks : MarksId l) : MarksId (trimChars l) := by
  refine trimChars_induction marks (fun x l blank => ?_) (fun x l blank => ?_)
  · rintro ⟨before, c, behind, text, first, goesOn⟩
    cases before with
    | nil =>
      have letter : x = 'T' := (List.cons.inj text).1
      rw [letter] at blank
      exact absurd blank (by decide)
    | cons y before =>
      obtain ⟨rfl, rfl⟩ := List.cons.inj text
      exact ⟨before, c, behind, rfl, fun there => first (List.infix_cons there), goesOn⟩
  · rintro ⟨before, c, behind, text, first, goesOn⟩
    rw [← List.append_assoc] at text
    rcases concat_eq_append_cons.mp text with ⟨_, _, rfl⟩ | ⟨inner, rfl, rfl⟩
    · rw [endsTracking, blank] at goesOn
      cases goesOn
    · exact ⟨before, c, inner, by rw [List.append_assoc], first, goesOn⟩

/-! ### Embedded objects -/

theorem embeds_iff : Embeds l before object ↔
    embedded? l = some (before, object) ∧ ∃ fields, Json.parse (String.ofList object) = .ok (.obj fields) := by
  rw [embedded?_eq_some]
  constructor
  · rintro ⟨⟨behind, text, last⟩, first, ⟨inside, braces⟩, parsed⟩
    exact ⟨⟨inside, behind, braces, text, first, last⟩, parsed⟩
  · rintro ⟨⟨inside, behind, braces, text, first, last⟩, parsed⟩
    exact ⟨⟨behind, text, last⟩, first, ⟨inside, braces⟩, parsed⟩

/-- A text without an embedded object is looked through as a whole. -/
theorem ofText_of_plain (plain : ∀ before object, ¬ Embeds l before object) (depth : Nat) :
    ofText depth l = ofPlainText l := by
  cases depth with
  | zero => rfl
  | succ depth =>
    rw [ofText]
    split
    · rename_i before object found
      split
      · rename_i fields parsed
        exact absurd (embeds_iff.mpr ⟨found, fields, parsed⟩) (plain before object)
      · rfl
    · rfl

theorem ofBody_of_free (free : IsFreeText body) :
    ofBody body = ofText (trimChars body.toList).length (trimChars body.toList) := by
  simp only [ofBody]
  split
  · rename_i nothing
    rw [List.isEmpty_iff.mp nothing]
    rfl
  · split
    · rename_i fields parsed
      exact absurd parsed (free.noObject fields)
    · rename_i s parsed
      exact absurd parsed (free.noText s)
    · rfl

/-- An embedded object is read like a body, and the text in front of it tells what the object leaves open. -/
theorem ofBody_of_embeds (free : IsFreeText body) (embeds : Embeds (trimChars body.toList) before object) :
    ofBody body = (ofBody (String.ofList object)).orElse (ofPlainText before) := by
  obtain ⟨found, fields, parsed⟩ := embeds_iff.mp embeds
  obtain ⟨⟨behind, text, -⟩, -, ⟨inside, braces⟩, -⟩ := embeds
  have own : ofBody (String.ofList object) = ofFields (ofText object.length) fields := by
    have trimmed : trimChars object = object := by
      rw [braces]
      exact trimChars_object [] inside
    have some_ : object.isEmpty = false := by rw [braces]; rfl
    simp only [ofBody, String.toList_ofList, trimmed, some_, Bool.false_eq_true, if_false, parsed]
  have size : (trimChars body.toList).length = before.length + object.length + behind.length := by
    rw [text, List.length_append, List.length_append]
  have some_ : 0 < object.length := by simp [braces]
  obtain ⟨depth, length⟩ := Nat.exists_eq_succ_of_ne_zero (n := (trimChars body.toList).length) (by omega)
  rw [own, ofBody_of_free free, length, ofText, found]
  simp only [parsed]
  rw [ofFields_congr_older fun t older => ?_]
  have shorter := size_textField isMeasure_length parsed older
  rw [size_length, size_length] at shorter
  exact ofText_depth (by omega) (by omega)

end ErrorBody

/-! ### What is found -/

variable {status : Nat} {body : String}

theorem code_ne_unknown_iff : (classify status body).code ≠ .unknown ↔ (ErrorBody.ofBody body).code.isSome := by
  have known := (ErrorBody.sound_ofBody body).code
  rw [classify_eq]
  show (ErrorBody.ofBody body).code.getD .unknown ≠ .unknown ↔ _
  cases told : (ErrorBody.ofBody body).code with
  | none => simp
  | some code => simpa [told] using known

theorem trackingId_ne_none_iff :
    (classify status body).trackingId ≠ none ↔ (ErrorBody.ofBody body).trackingId.isSome := by
  rw [classify_eq]
  show (ErrorBody.ofBody body).trackingId.map String.ofList ≠ none ↔ _
  rw [ne_eq, Option.map_eq_none_iff, ← ne_eq, Option.ne_none_iff_isSome]

/-- A body that is no document is a free text. -/
theorem isFreeText_of_error {e : ReadError} (refused : Json.parse (trim body) = .error e)
    (unmarked : ¬ ErrorBody.codeMark <:+: body.toList) : IsFreeText body := by
  refine ⟨fun fields parsed => ?_, fun s parsed => ?_, unmarked⟩
  · rw [refused] at parsed
    cases parsed
  · rw [refused] at parsed
    cases parsed

theorem IsFreeText.unmarked_trimChars (free : IsFreeText body) : ¬ ErrorBody.codeMark <:+: trimChars body.toList := by
  obtain ⟨front, back, text, -⟩ := exists_padding body.toList
  exact fun there => free.unmarked (there.trans ⟨front, back, text.symm⟩)

/-- Where no object is embedded, nothing is overlooked. -/
theorem foundIn_of_plain (free : IsFreeText body)
    (plain : ∀ before object, ¬ Embeds (trimChars body.toList) before object) : FoundIn status body := by
  have said := ErrorBody.ofBody_of_free free
  rw [ErrorBody.ofText_of_plain plain] at said
  constructor
  · intro holds
    rw [code_ne_unknown_iff, said, ErrorBody.isSome_code_ofPlainText free.unmarked_trimChars]
    exact ErrorBody.holdsCode_trimChars holds
  · intro marks
    rw [trackingId_ne_none_iff, said, ErrorBody.trackingId_ofPlainText]
    exact ErrorBody.isSome_trackingOfText (ErrorBody.marksId_trimChars marks)

section Embedded
variable {before object : List Char} (free : IsFreeText body) (embeds : Embeds (trimChars body.toList) before object)
include free embeds

theorem code_ne_unknown_of_embeds : (classify status body).code ≠ .unknown ↔
    HoldsCode before ∨ (classify status (String.ofList object)).code ≠ .unknown := by
  have unmarked : ¬ ErrorBody.codeMark <:+: before := by
    obtain ⟨behind, text, -⟩ := embeds.place
    exact fun there => free.unmarked_trimChars (there.trans ⟨[], object ++ behind, by simp [text]⟩)
  rw [code_ne_unknown_iff, code_ne_unknown_iff, ErrorBody.ofBody_of_embeds free embeds,
    ← ErrorBody.isSome_code_ofPlainText unmarked, or_comm, ErrorBody.orElse]
  simp

theorem trackingId_ne_none_of_embeds (marks : MarksId body.toList) : (classify status body).trackingId ≠ none ↔
    MarksId before ∨ (classify status (String.ofList object)).trackingId ≠ none := by
  have inFront : MarksId before ↔ (ErrorBody.trackingOfText before).isSome := by
    have marks := ErrorBody.marksId_trimChars marks
    obtain ⟨behind, text, -⟩ := embeds.place
    rw [text, List.append_assoc] at marks
    exact ⟨ErrorBody.isSome_trackingOfText, ErrorBody.marksId_of_append marks⟩
  rw [trackingId_ne_none_iff, trackingId_ne_none_iff, ErrorBody.ofBody_of_embeds free embeds, inFront, or_comm,
    ← ErrorBody.trackingId_ofPlainText, ErrorBody.orElse]
  simp

end Embedded

/-- Only in or behind an embedded object that tells none of its own, a code or an identifier is overlooked. -/
theorem foundIn_iff (free : IsFreeText body) : FoundIn status body ↔
    ∀ before object, Embeds (trimChars body.toList) before object →
      (HoldsCode body.toList → HoldsCode before ∨ (classify status (String.ofList object)).code ≠ .unknown) ∧
      (MarksId body.toList → MarksId before ∨ (classify status (String.ofList object)).trackingId ≠ none) := by
  constructor
  · intro found before object embeds
    exact ⟨fun holds => (code_ne_unknown_of_embeds free embeds).mp (found.code holds),
      fun marks => (trackingId_ne_none_of_embeds free embeds marks).mp (found.trackingId marks)⟩
  · intro told
    by_cases embedded : ∃ before object, Embeds (trimChars body.toList) before object
    · obtain ⟨before, object, embeds⟩ := embedded
      obtain ⟨code, trackingId⟩ := told before object embeds
      exact ⟨fun holds => (code_ne_unknown_of_embeds free embeds).mpr (code holds),
        fun marks => (trackingId_ne_none_of_embeds free embeds marks).mpr (trackingId marks)⟩
    · exact foundIn_of_plain free fun before object embeds => embedded ⟨before, object, embeds⟩

/-- A code and an identifier in front of an object that tells neither. -/
def toldInFront : String :=
  "404001, Tracking ID:t-1 \x7b\"id\":\"a\"\x7d at noon"

theorem foundIn_toldInFront : IsFreeText toldInFront ∧ FoundIn 404 toldInFront := by
  have refused : Json.parse (trim toldInFront) = .error .trailingCharacters := by rfl
  have free := isFreeText_of_error refused (by decide +kernel)
  refine ⟨free, (foundIn_iff free).mpr fun before object embeds => ?_⟩
  have here : ErrorBody.embedded? (trimChars toldInFront.toList) =
      some ("404001, Tracking ID:t-1 ".toList, "\x7b\"id\":\"a\"\x7d".toList) := by decide +kernel
  have found := (ErrorBody.embeds_iff.mp embeds).1
  rw [here] at found
  cases found
  refine ⟨fun _ => .inl ?_, fun _ => .inl ?_⟩
  · exact ErrorBody.holdsCode_iff.mpr ⟨"404001".toList, by decide +kernel, by decide +kernel⟩
  · exact ⟨"404001, ".toList, 't', "-1 ".toList, by decide +kernel, by decide +kernel, by decide +kernel⟩

/-- A code and an identifier behind an object that tells neither. -/
def toldBehind : String :=
  "No device \x7b\"id\":\"a\"\x7d: 404001, Tracking ID:t-1"

theorem overlooked_toldBehind : IsFreeText toldBehind ∧ HoldsCode toldBehind.toList ∧ MarksId toldBehind.toList ∧
    (classify 404 toldBehind).code = .unknown ∧ (classify 404 toldBehind).trackingId = none := by
  have refused : Json.parse (trim toldBehind) = .error .expectedValue := by rfl
  refine ⟨isFreeText_of_error refused (by decide +kernel), ?_, ?_, by decide +kernel, by decide +kernel⟩
  · exact ErrorBody.holdsCode_iff.mpr ⟨"404001".toList, by decide +kernel, by decide +kernel⟩
  · exact ⟨"No device \x7b\"id\":\"a\"\x7d: 404001, ".toList, 't', "-1".toList, by decide +kernel,
      by decide +kernel, by decide +kernel⟩

end DeviceTwin.Registry
