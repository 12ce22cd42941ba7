import DeviceTwin.Proofs.Json.Document
import DeviceTwin.Proofs.Text.Blank
import DeviceTwin.Proofs.Text.Numeral
import DeviceTwin.Proofs.Text.Split
import DeviceTwin.Registry.Failure.Body

/-!
The forms in which a body tells an error (`Tells`): an object of code, message and identifier, with the code by its
value or by its name; the older object, whose texts carry the code and the identifier behind marks or a whole object of
the first form; and a plain text. Whatever the form, the failure is the same (`classify_of_tells`).
-/
namespace DeviceTwin.Registry
open DeviceTwin.Json DeviceTwin.Text

/-! ### The table of codes -/

namespace ErrorCode

theorem ofValue_value {code : ErrorCode} (listed : code ∈ all) : ofValue code.value = code := by
  revert code
  decide +kernel

/-- The name that two codes share stands for the first of them. -/
theorem ofName_name {code : ErrorCode} (listed : code ∈ all) (first : code ≠ .partitionNotFoundLegacy) :
    ofName code.name = code := by
  revert code
  decide +kernel

theorem value_lt (code : ErrorCode) : code.value < 0x100000000 := by
  cases code <;> decide

theorem letters_name (code : ErrorCode) : ∀ c ∈ code.name.toList, 'a' ≤ c.toLower ∧ c.toLower ≤ 'z' := by
  have letters : (code.name.toList.all fun c => 'a' ≤ c.toLower && c.toLower ≤ 'z') = true := by
    cases code <;> decide +kernel
  simpa using letters

theorem name_free (code : ErrorCode) : ';' ∉ code.name.toList ∧ '\x7b' ∉ code.name.toList := by
  constructor <;> exact fun member => absurd (code.letters_name _ member) (by decide)

theorem known?_of_mem {code : ErrorCode} (listed : code ∈ all) : code.known? = some code := by
  have known : code ≠ .unknown := by
    rintro rfl
    revert listed
    decide
  rw [known?, if_neg known]

/-- The case of the letters does not count. -/
theorem ofName_of_sameLetters {name name' : String} (same : sameLetters name name' = true) :
    ofName name = ofName name' := by
  have lowered : lower name = lower name' := by simpa [sameLetters] using same
  simp [ofName, sameLetters, lowered]

end ErrorCode

/-! ### Forms of a body -/

namespace ErrorBody

variable {code : ErrorCode} {message id : String} {l : List Char} {fields read : Fields}

/-- An identifier that a text can hold behind the mark: its end is found again. -/
structure IsTrackingId (id : String) : Prop where
  there : id ≠ ""
  unbroken : ∀ c ∈ id.toList, endsTracking c = false

/-- A code as a field holds it: its value, as a number or as a numeral, or its name in letters of any case. -/
inductive Spells (code : ErrorCode) : Json → Prop where
  | value : Spells code (.int code.value)
  | numeral : Spells code (.str (String.ofList (decimal code.value)))
  | name {s : String} (same : sameLetters s code.name = true) : Spells code (.str s)

/-- The object that tells code, message and identifier in fields of their own. -/
def fieldsOf (spelling : Json) (message id : String) : Fields :=
  [("errorCode", spelling), ("message", .str message), ("trackingId", .str id)]

/-- The text that tells a code in front of a message. -/
def markedText (code : ErrorCode) (message : String) : String :=
  "ErrorCode:" ++ code.name ++ ";" ++ message

/-- A text that tells an identifier. -/
def trackingText (id : String) : String :=
  "Tracking ID:" ++ id

/-- The older object, whose text tells everything but the identifier, which may be in a text of its own. -/
def olderFields (text : String) (exception : Option String) : Fields :=
  ("Message", .str text) :: exception.toList.map fun s => ("ExceptionMessage", .str s)

/-- A text holds an object of these fields, in any order. -/
def Holds (text : String) (fields : Fields) : Prop :=
  ∃ read, Json.parse text = .ok (.obj read) ∧ read.Perm fields

/-- A message that is not taken for an embedded object or for an identifier. -/
structure IsPlainMessage (message : String) : Prop where
  noObject : '\x7b' ∉ message.toList
  unmarked : ¬ trackingMark <:+: message.toList

/-- The bodies that tell an error, with the identifier of the request where they hold one. -/
inductive Tells (code : ErrorCode) (message id : String) : String → Option String → Prop where
  | object {body : String} {spelling : Json} (spells : Spells code spelling)
      (holds : Holds (trim body) (fieldsOf spelling message id)) : Tells code message id body (some id)
  | older {body : String} (plain : IsPlainMessage message)
      (holds : Holds (trim body) (olderFields (markedText code message) (some (trackingText id)))) :
      Tells code message id body (some id)
  | embedded {body before : String} (exception : Option String) (noObject : '\x7b' ∉ before.toList)
      (holds : Holds (trim body)
        (olderFields (before ++ (Json.obj (fieldsOf (.int code.value) message id)).print) exception)) :
      Tells code message id body (some id)
  | plain (plain : IsPlainMessage message) : Tells code message id (markedText code message) none

/-! ### Codes -/

theorem isBlank_of_isDigit {c : Char} (digit : c.isDigit = true) : isBlank c = false := by
  have range := toNat_of_isDigit digit
  exact isBlank_eq_false (by omega) (by omega)

theorem toNat_of_toLower {c : Char} (letter : 'a' ≤ c.toLower ∧ c.toLower ≤ 'z') : 65 ≤ c.toNat ∧ c.toNat ≤ 122 := by
  simp only [Char.le_def, UInt32.le_iff_toNat_le] at letter
  delta Char.toLower at letter
  split at letter
  · rename_i upper
    simp only [UInt32.le_iff_toNat_le, ge_iff_le] at upper
    exact ⟨upper.1, le_trans upper.2 (by decide)⟩
  · exact ⟨le_trans (by decide) letter.1, letter.2⟩

/-- A numeral that does not begin with a plus sign is one as it stands. -/
theorem natural?_eq {c : Char} (sign : c ≠ '+') (l : List Char) :
    natural? (c :: l) = (ofDecimal? (c :: l)).filter (· < 0x100000000) := by
  unfold natural?
  split
  · rename_i begins
    exact absurd (List.cons.inj begins).1 sign
  · rfl

theorem codeOfText_decimal (listed : code ∈ ErrorCode.all) : codeOfText (decimal code.value) = some code := by
  have trimmed : trimChars (decimal code.value) = decimal code.value :=
    trimChars_of_forall fun c member => isBlank_of_isDigit (isDigit_decimal _ c member)
  have value : natural? (decimal code.value) = some code.value := by
    cases numeral : decimal code.value with
    | nil => exact absurd numeral (decimal_ne_nil _)
    | cons c l =>
      have digit : c.isDigit = true := isDigit_decimal code.value c (by simp [numeral])
      rw [natural?_eq (by rintro rfl; cases digit), ← numeral, ofDecimal?_decimal]
      simp [Option.filter, code.value_lt]
  rw [codeOfText, trimmed, value]
  simp [ErrorCode.ofValue_value listed, ErrorCode.known?_of_mem listed]

/-- The characters of a name are letters, in whatever case they are. -/
theorem letters_of_sameLetters {name : String} (same : sameLetters name code.name = true) :
    ∀ c ∈ name.toList, 65 ≤ c.toNat ∧ c.toNat ≤ 122 := by
  intro c member
  have lowered : name.toList.map Char.toLower = code.name.toList.map Char.toLower := by
    simpa [sameLetters, lower, String.ofList_inj] using same
  have there : c.toLower ∈ code.name.toList.map Char.toLower := lowered ▸ List.mem_map_of_mem member
  obtain ⟨d, inside, lower⟩ := List.mem_map.mp there
  exact toNat_of_toLower (lower ▸ code.letters_name d inside)

theorem codeOfText_name {name : String} (listed : code ∈ ErrorCode.all) (first : code ≠ .partitionNotFoundLegacy)
    (same : sameLetters name code.name = true) : codeOfText name.toList = some code := by
  have letters := letters_of_sameLetters same
  have trimmed : trimChars name.toList = name.toList :=
    trimChars_of_forall fun c member => isBlank_eq_false (by have := letters c member; omega)
      (by have := letters c member; omega)
  have noNumber : natural? name.toList = none := by
    cases text : name.toList with
    | nil => rfl
    | cons c l =>
      have letter := letters c (by simp [text])
      have noDigit : c.isDigit = false := by
        rw [Bool.eq_false_iff]
        intro digit
        have range := toNat_of_isDigit digit
        omega
      rw [natural?_eq (by rintro rfl; exact absurd letter (by decide)), ofDecimal?, if_pos (by simp [noDigit])]
      rfl
  rw [codeOfText, trimmed, noNumber]
  simp [ErrorCode.ofName_of_sameLetters same, ErrorCode.ofName_name listed first, ErrorCode.known?_of_mem listed]

theorem codeOfJson_value (listed : code ∈ ErrorCode.all) : codeOfJson (.int code.value) = some code := by
  have range : (0 : Int) ≤ code.value ∧ (code.value : Int) < 0x100000000 := by
    have small := code.value_lt
    omega
  rw [Json.int, codeOfJson, if_pos range, Int.toNat_natCast, ErrorCode.ofValue_value listed,
    ErrorCode.known?_of_mem listed]

theorem codeOfJson_of_spells {spelling : Json} (listed : code ∈ ErrorCode.all) (first : code ≠ .partitionNotFoundLegacy)
    (spells : Spells code spelling) : codeOfJson spelling = some code := by
  cases spells with
  | value => exact codeOfJson_value listed
  | numeral => rw [codeOfJson, String.toList_ofList, codeOfText_decimal listed]
  | name same => rw [codeOfJson, codeOfText_name listed first same]

/-! ### Texts with marks -/

namespace IsTrackingId

theorem isBlank (tracking : IsTrackingId id) : ∀ c ∈ id.toList, isBlank c = false := by
  intro c member
  have unbroken := tracking.unbroken c member
  simp only [endsTracking, Bool.or_eq_false_iff] at unbroken
  exact unbroken.1.1

theorem nonBlank? (tracking : IsTrackingId id) : nonBlank? id.toList = some id.toList := by
  have trimmed := trimChars_of_forall tracking.isBlank
  have there : id.toList ≠ [] := by simpa using tracking.there
  rw [nonBlank?_of_ne_nil (by rwa [trimmed]), trimmed]

/-- An identifier is found again behind its mark. -/
theorem trackingOfText (tracking : IsTrackingId id) : trackingOfText (trackingText id).toList = some id.toList := by
  have behind : ((id.toList.dropWhile Text.isBlank).takeWhile fun c => !endsTracking c) = id.toList := by
    rw [List.dropWhile_eq_self_iff.mpr, List.takeWhile_eq_self_iff.mpr]
    · intro c member
      simp [tracking.unbroken c member]
    · intro there
      simp [tracking.isBlank _ (List.getElem_mem there)]
  rw [ErrorBody.trackingOfText, trackingText, String.toList_append, show "Tracking ID:".toList = trackingMark from rfl,
    splitAtWord_append (by decide)]
  simp only [behind, tracking.nonBlank?]

theorem nonBlank?_trackingText (tracking : IsTrackingId id) :
    Text.nonBlank? (trackingText id).toList = some (trackingText id).toList := by
  have mark : "Tracking ID:".toList = 'T' :: ['r', 'a', 'c', 'k', 'i', 'n', 'g', ' ', 'I', 'D', ':'] := by decide
  have there : trimChars id.toList ≠ [] := by
    rw [trimChars_of_forall tracking.isBlank]
    simpa using tracking.there
  have trimmed : trimChars (trackingText id).toList = (trackingText id).toList := by
    rw [trackingText, String.toList_append, mark, trimChars_append (by decide) _ there,
      dropTrailing_of_forall tracking.isBlank]
  have some_ : (trackingText id).toList ≠ [] := by simp [trackingText]
  rw [nonBlank?_of_ne_nil (by rwa [trimmed]), trimmed]

end IsTrackingId

/-- A text that tells a code in front of the message `l`. -/
def marked (code : ErrorCode) (l : List Char) : List Char :=
  codeMark ++ (code.name.toList ++ ';' :: l)

theorem markedText_toList (code : ErrorCode) (message : String) :
    (markedText code message).toList = marked code message.toList := by
  have separator : ";".toList = [';'] := by decide
  rw [markedText, String.toList_append, String.toList_append, String.toList_append, separator]
  unfold marked codeMark
  simp only [List.append_assoc, List.singleton_append]

theorem ofPlainText_marked (listed : code ∈ ErrorCode.all) (first : code ≠ .partitionNotFoundLegacy)
    (unmarked : ¬ trackingMark <:+: l) : ofPlainText (marked code l) = ⟨some code, nonBlank? l, none⟩ := by
  have codeRead : codeOfText code.name.toList = some code :=
    codeOfText_name listed first (by simp [sameLetters])
  have noTracking : trackingOfText (marked code l) = none := by
    have absent : ¬ trackingMark <:+: marked code l := by
      intro there
      rw [marked, ← List.append_assoc] at there
      rcases infix_append_cons (by decide) there with before | behind
      · revert before
        cases code <;> decide +kernel
      · exact unmarked behind
    rw [trackingOfText, splitAtWord_eq_none absent]
  rw [ofPlainText, noTracking, marked, splitAtWord_append (by decide)]
  simp only
  rw [splitOnce_append code.name_free.1]
  simp only [codeRead]

theorem ofText_noObject (noObject : '\x7b' ∉ l) (depth : Nat) : ofText depth l = ofPlainText l := by
  cases depth with
  | zero => rfl
  | succ depth =>
    have none_ : embedded? l = none := by
      have dropped : l.dropWhile (· ≠ '\x7b') = [] := by
        rw [List.dropWhile_eq_nil_iff]
        intro c member
        simpa using fun same : c = '\x7b' => noObject (same ▸ member)
      rw [embedded?, dropped]
      rfl
    rw [ofText, none_]

/-- What stands from the first opening brace to the last closing one is the embedded object. -/
theorem embedded?_append (noObject : '\x7b' ∉ l) (inner : List Char) :
    embedded? (l ++ ('\x7b' :: inner ++ ['\x7d'])) = some (l, '\x7b' :: inner ++ ['\x7d']) := by
  have front : ∀ c ∈ l, decide (c ≠ '\x7b') = true := by
    intro c member
    simpa using fun same : c = '\x7b' => noObject (same ▸ member)
  have here : ('\x7b' :: inner ++ ['\x7d']).dropWhile (fun c => decide (c ≠ '\x7b')) = '\x7b' :: inner ++ ['\x7d'] := rfl
  have none_ : ('\x7b' :: inner ++ ['\x7d']).takeWhile (fun c => decide (c ≠ '\x7b')) = [] := rfl
  rw [embedded?, List.dropWhile_append_of_pos front, List.takeWhile_append_of_pos front, here, none_,
    dropTrailing_concat (by decide), List.append_nil]
  rfl

/-! ### Objects -/

/-- Of an object only the six fields count that a form may have. -/
theorem ofFields_congr (ofText : List Char → ErrorBody)
    (same : ∀ key, Assoc.find? key read = Assoc.find? key fields) : ofFields ofText read = ofFields ofText fields := by
  simp only [ofFields, textField, same]

theorem ofBody_of_holds {body : String} (holds : Holds (trim body) fields) (distinct : (Assoc.keys fields).Nodup) :
    ∃ depth, ofBody body = ofFields (ofText (depth + 1)) fields := by
  obtain ⟨read, reading, same⟩ := holds
  cases text : trimChars body.toList with
  | nil =>
    rw [trim, text] at reading
    cases reading
  | cons c l =>
    refine ⟨l.length, ?_⟩
    rw [trim, text] at reading
    rw [ofBody, text]
    simp only [List.isEmpty_cons, Bool.false_eq_true, if_false, reading, List.length_cons]
    exact ofFields_congr _ (Assoc.find?_perm same distinct)

/-- The object of an error tells what it was made from. -/
theorem ofFields_fieldsOf {spelling : Json} (told : codeOfJson spelling = some code) (there : isBlankText message = false)
    (tracking : IsTrackingId id) (ofText : List Char → ErrorBody) :
    ofFields ofText (fieldsOf spelling message id) = ⟨some code, some (trimChars message.toList), some id.toList⟩ := by
  have text : nonBlank? message.toList = some (trimChars message.toList) :=
    nonBlank?_of_ne_nil (trimChars_ne_nil there)
  simp [ofFields, textField, fieldsOf, Assoc.find?, Json.text?, told, text, tracking.nonBlank?]

/-- What is marked begins with the first letter of the mark and ends with the message. -/
theorem marked_eq (code : ErrorCode) : ∃ front, ∀ l, marked code l = 'E' :: front ++ l := by
  have mark : codeMark = 'E' :: ['r', 'r', 'o', 'r', 'C', 'o', 'd', 'e', ':'] := by decide
  refine ⟨['r', 'r', 'o', 'r', 'C', 'o', 'd', 'e', ':'] ++ (code.name.toList ++ [';']), fun l => ?_⟩
  rw [marked, mark]
  simp only [List.cons_append, List.append_assoc, List.nil_append]

theorem trimChars_marked (code : ErrorCode) (there : trimChars l ≠ []) :
    trimChars (marked code l) = marked code (dropTrailing isBlank l) := by
  obtain ⟨front, parts⟩ := marked_eq code
  rw [parts, trimChars_append (by decide) front there, ← parts]

/-- A marked text tells its code and its message, wherever it stands. -/
theorem ofText_marked (listed : code ∈ ErrorCode.all) (first : code ≠ .partitionNotFoundLegacy)
    (there : isBlankText message = false) (plain : IsPlainMessage message) (depth : Nat) :
    ofText depth (trimChars (marked code message.toList)) = ⟨some code, some (trimChars message.toList), none⟩ := by
  have inside := dropTrailing_prefix isBlank message.toList
  have noObject : '\x7b' ∉ marked code (dropTrailing isBlank message.toList) := by
    have noName := code.name_free.2
    have noMessage : '\x7b' ∉ dropTrailing isBlank message.toList := fun member => plain.noObject (inside.subset member)
    have noMark : '\x7b' ∉ codeMark := by decide
    rw [marked, List.mem_append, List.mem_append, List.mem_cons]
    rintro (mark | name | separator | rest)
    · exact noMark mark
    · exact noName name
    · cases separator
    · exact noMessage rest
  have unmarked : ¬ trackingMark <:+: dropTrailing isBlank message.toList :=
    fun marked => plain.unmarked (marked.trans inside.isInfix)
  rw [trimChars_marked code (trimChars_ne_nil there), ofText_noObject noObject,
    ofPlainText_marked listed first unmarked, nonBlank?_dropTrailing, nonBlank?_of_ne_nil (trimChars_ne_nil there)]

/-- A marked text is no document. -/
theorem parse_marked (code : ErrorCode) (l : List Char) :
    Json.parse (String.ofList (marked code l)) = .error .expectedValue := by
  obtain ⟨front, parts⟩ := marked_eq code
  have space : skipSpace ('E' :: front ++ l) = 'E' :: front ++ l :=
    skipSpace_of_begins ⟨'E', front ++ l, rfl, by decide, by decide⟩
  have refused : readDocument (innerOf depthLimit) ('E' :: front ++ l) = .error .expectedValue := rfl
  rw [Json.parse, Json.read, String.toList_ofList, parts, readValue_document, space, refused]
  rfl

theorem isDocument_fieldsOf (code : ErrorCode) (message id : String) :
    IsDocument depthLimit (.obj (fieldsOf (.int code.value) message id)) := by
  have range : leastInt ≤ (code.value : Int) ∧ (code.value : Int) ≤ greatestInt := by
    have small := code.value_lt
    simp only [leastInt, greatestInt]
    omega
  refine .obj ?_
  simpa [fieldsOf] using ⟨.num 126 range, .str 126 message, .str 126 id⟩

theorem exact_fieldsOf (code : ErrorCode) (message id : String) :
    Exact (.obj (fieldsOf (.int code.value) message id)) := by
  refine .obj (by simp [fieldsOf, Assoc.keys]) ?_
  simpa [fieldsOf] using ⟨.int code.value, .str message, .str id⟩

/-- An object that is embedded in a text counts, whatever stands in front of it. -/
theorem ofText_embedded (listed : code ∈ ErrorCode.all) (there : isBlankText message = false)
    (tracking : IsTrackingId id) (noObject : '\x7b' ∉ l) (depth : Nat) :
    ofText (depth + 1) (l ++ (Json.obj (fieldsOf (.int code.value) message id)).write) =
      ⟨some code, some (trimChars message.toList), some id.toList⟩ := by
  have inner := parse_print (isDocument_fieldsOf code message id) (exact_fieldsOf code message id)
  rw [print, write] at inner
  rw [ofText, write, embedded?_append noObject]
  simp only [inner, ofFields_fieldsOf (codeOfJson_value listed) there tracking]
  rfl

/-- Blanks in front of a text that ends with an object are all that is trimmed. -/
theorem trimChars_object (l inner : List Char) :
    trimChars (l ++ ('\x7b' :: inner ++ ['\x7d'])) = l.dropWhile isBlank ++ ('\x7b' :: inner ++ ['\x7d']) := by
  have object : dropTrailing isBlank ('\x7b' :: inner ++ ['\x7d']) = '\x7b' :: inner ++ ['\x7d'] :=
    dropTrailing_concat (by decide) _
  have front : (l ++ ('\x7b' :: inner ++ ['\x7d'])).dropWhile isBlank =
      l.dropWhile isBlank ++ ('\x7b' :: inner ++ ['\x7d']) := by
    rw [List.dropWhile_append]
    split
    · rename_i nothing
      rw [List.isEmpty_iff.mp nothing]
      rfl
    · rfl
  rw [trimChars, front, dropTrailing_append (by rw [object]; simp), object]

/-- The older object says what its text says, and the identifier only where the text does not. -/
theorem ofFields_olderFields {text : String} {l : List Char} (some_ : nonBlank? text.toList = some l)
    (exception : Option String) (ofText : List Char → ErrorBody) :
    ofFields ofText (olderFields text exception) =
      { ofText l with
        trackingId := (ofText l).trackingId <|>
          (exception.bind fun s => nonBlank? s.toList).bind trackingOfText } := by
  cases exception <;> simp [ofFields, textField, olderFields, Assoc.find?, Json.text?, some_, orElse]

/-! ### One failure -/

/-- What a body in one of the forms says. -/
theorem ofBody_of_tells {body : String} {found : Option String} (tells : Tells code message id body found)
    (listed : code ∈ ErrorCode.all) (first : code ≠ .partitionNotFoundLegacy) (there : isBlankText message = false)
    (tracking : IsTrackingId id) :
    ofBody body = ⟨some code, some (trimChars message.toList), found.map String.toList⟩ := by
  have someText : trimChars (marked code message.toList) ≠ [] := by
    obtain ⟨front, parts⟩ := marked_eq code
    rw [trimChars_marked code (trimChars_ne_nil there), parts]
    exact List.cons_ne_nil _ _
  have distinct (text : String) (exception : Option String) : (Assoc.keys (olderFields text exception)).Nodup := by
    cases exception <;> simp [olderFields, Assoc.keys]
  cases tells with
  | object spells holds =>
    obtain ⟨depth, read⟩ := ofBody_of_holds holds (by simp [fieldsOf, Assoc.keys])
    rw [read, ofFields_fieldsOf (codeOfJson_of_spells listed first spells) there tracking]
    rfl
  | older plain holds =>
    obtain ⟨depth, read⟩ := ofBody_of_holds holds (distinct _ _)
    have text : nonBlank? (markedText code message).toList = some (trimChars (marked code message.toList)) := by
      rw [markedText_toList, nonBlank?_of_ne_nil someText]
    rw [read, ofFields_olderFields text, ofText_marked listed first there plain]
    simp [tracking.nonBlank?_trackingText, tracking.trackingOfText]
  | @embedded _ before exception noObject holds =>
    obtain ⟨depth, read⟩ := ofBody_of_holds holds (distinct _ _)
    have noObject : '\x7b' ∉ before.toList.dropWhile isBlank :=
      fun member => noObject ((List.dropWhile_suffix isBlank).subset member)
    have text : nonBlank? (before ++ (Json.obj (fieldsOf (.int code.value) message id)).print).toList =
        some (before.toList.dropWhile isBlank ++ (Json.obj (fieldsOf (.int code.value) message id)).write) := by
      rw [print, String.toList_append, String.toList_ofList, write, ← trimChars_object]
      refine nonBlank?_of_ne_nil ?_
      rw [trimChars_object]
      simp
    rw [read, ofFields_olderFields text, ofText_embedded listed there tracking noObject]
    rfl
  | plain plain =>
    have said := ofText_marked listed first there plain (trimChars (marked code message.toList)).length
    have refused : Json.parse (String.ofList (trimChars (marked code message.toList))) = .error .expectedValue := by
      rw [trimChars_marked code (trimChars_ne_nil there), parse_marked]
    rw [ofBody, markedText_toList]
    simp only [List.isEmpty_iff, someText, if_false, refused, said]
    rfl

end ErrorBody

/-- Every body that tells an error is classified as that error, whatever the status of the response. -/
theorem classify_of_tells {code : ErrorCode} {message id body : String} {found : Option String}
    (tells : ErrorBody.Tells code message id body found) (listed : code ∈ ErrorCode.all)
    (first : code ≠ .partitionNotFoundLegacy) (there : isBlankText message = false)
    (tracking : ErrorBody.IsTrackingId id) (status : Nat) :
    classify status body = .service ⟨code.kind, code, trim message, code.isTransient, found⟩ := by
  have said := ErrorBody.ofBody_of_tells tells listed first there tracking
  have restored : (found.map String.toList).map String.ofList = found := by
    cases found <;> simp
  simp [classify, failureOf, said, restored, trim]

/-- An object in a text in an object, with a message that looks like a marked text and like an object. -/
def nestedBody : String :=
  "\x7b\"Message\":\"Refused: \x7b\\\"errorCode\\\":404001,\\\"message\\\":" ++
    "\\\" ErrorCode:1;\x7b\\\\\\\"\x7d\\\",\\\"trackingId\\\":\\\"t-1\\\"\x7d\"\x7d"

theorem classify_nestedBody :
    classify 503 nestedBody =
      .service ⟨.deviceNotFound, .deviceNotFound, "ErrorCode:1;\x7b\"\x7d", false, some "t-1"⟩ := by
  let message : String := " ErrorCode:1;\x7b\"\x7d"
  let fields : Fields :=
    ErrorBody.olderFields ("Refused: " ++ (Json.obj (ErrorBody.fieldsOf (.int 404001) message "t-1")).print) none
  have body : trim nestedBody = (Json.obj fields).print := by decide +kernel
  have holds := parse_print (j := .obj fields)
    (.obj (by simpa [fields, ErrorBody.olderFields] using .str 126 _))
    (.obj (by simp [fields, ErrorBody.olderFields, Assoc.keys])
      (by simpa [fields, ErrorBody.olderFields] using .str _))
  have trimmed : trim message = "ErrorCode:1;\x7b\"\x7d" := by decide +kernel
  have tells : ErrorBody.Tells .deviceNotFound message "t-1" nestedBody (some "t-1") :=
    .embedded none (by decide) ⟨fields, body ▸ holds, .refl _⟩
  have unbroken : ("t-1".toList.all fun c => !ErrorBody.endsTracking c) = true := by decide
  have failure :=
    classify_of_tells tells (by decide) (by decide) (by decide) ⟨by decide, by simpa using unbroken⟩ 503
  rw [trimmed] at failure
  exact failure

end DeviceTwin.Registry
