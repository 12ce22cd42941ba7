import DeviceTwin.Proofs.Json.Sound
import DeviceTwin.Proofs.Text.Utf8

/-!
How much of a text is read. Every reader leaves an end of the text that it is given (`suffix_readValue`), and a text
that is read is smaller than its literal, in characters as in bytes (`size_readText`), since no escape is shorter than
what it stands for. So the texts in an object are smaller than the text of the object (`size_lt_of_parse`).
-/
namespace DeviceTwin.Json
open DeviceTwin.Number DeviceTwin.Text

variable {cs rest : List Char} {n : Number} {j : Json} {negative minus : Bool} {m : Nat} {exponent : Int}
  {depth fuel : Nat}

/-! ### Numbers -/

theorem suffix_skipSpace (cs : List Char) : skipSpace cs <:+ cs :=
  List.dropWhile_suffix _

theorem suffix_readWord {word : List Char} (reading : readWord word cs = .ok rest) : rest <:+ cs := by
  induction word generalizing cs with
  | nil =>
    cases reading
    exact List.suffix_refl _
  | cons w word ih =>
    cases cs with
    | nil => cases reading
    | cons c cs =>
      rw [readWord] at reading
      split at reading
      · exact (ih reading).trans (List.suffix_cons c cs)
      · cases reading

theorem suffix_takeDigits (limit m : Nat) (cs : List Char) : (takeDigits limit m cs).2 <:+ cs := by
  induction cs generalizing m with
  | nil => exact List.suffix_refl []
  | cons c cs ih =>
    rw [takeDigits]
    split
    · exact (ih _).trans (List.suffix_cons c cs)
    · exact List.suffix_refl _

theorem suffix_ofParts (reading : ofParts negative m exponent cs = .ok (n, rest)) : rest <:+ cs := by
  unfold ofParts at reading
  split at reading
  · cases reading
    exact List.suffix_refl cs
  · cases reading

theorem suffix_readExponentDigits (reading : readExponentDigits negative m exponent minus cs = .ok (n, rest)) :
    rest <:+ cs := by
  unfold readExponentDigits at reading
  split at reading
  · cases reading
  · rename_i c cs
    have taken := (suffix_takeDigits exponentLimit (c.toNat - 48) cs).trans (List.suffix_cons c cs)
    split at reading
    · simp only at reading
      split at reading
      · split at reading
        · cases reading
        · cases reading
          exact (List.dropWhile_suffix _).trans taken
      · exact (suffix_ofParts reading).trans taken
    · cases reading

theorem suffix_readExponent (reading : readExponent negative m exponent cs = .ok (n, rest)) : rest <:+ cs := by
  unfold readExponent at reading
  split at reading
  · exact (suffix_readExponentDigits reading).trans (List.suffix_cons _ _)
  · exact (suffix_readExponentDigits reading).trans (List.suffix_cons _ _)
  · exact suffix_readExponentDigits reading

theorem suffix_readAfterDigits (reading : readAfterDigits negative m exponent cs = .ok (n, rest)) : rest <:+ cs := by
  unfold readAfterDigits at reading
  split at reading
  · exact (suffix_readExponent reading).trans (List.suffix_cons _ _)
  · exact (suffix_readExponent reading).trans (List.suffix_cons _ _)
  · exact suffix_ofParts reading

theorem suffix_readFraction (reading : readFraction negative m exponent cs = .ok (n, rest)) : rest <:+ cs := by
  have taken := suffix_takeDigits mantissaLimit m cs
  unfold readFraction at reading
  simp only at reading
  split at reading
  · exact (suffix_readAfterDigits reading).trans ((List.dropWhile_suffix _).trans taken)
  · split at reading
    · cases reading
    · exact (suffix_readAfterDigits reading).trans taken

theorem suffix_readAfterInteger (reading : readAfterInteger negative m cs = .ok (n, rest)) : rest <:+ cs := by
  unfold readAfterInteger at reading
  split at reading
  · exact (suffix_readFraction reading).trans (List.suffix_cons _ _)
  · exact (suffix_readExponent reading).trans (List.suffix_cons _ _)
  · exact (suffix_readExponent reading).trans (List.suffix_cons _ _)
  · cases reading
    exact List.suffix_refl _

theorem suffix_readNumber (reading : readNumber negative cs = .ok (n, rest)) : rest <:+ cs := by
  unfold readNumber at reading
  split at reading
  · cases reading
  · split at reading
    · cases reading
    · exact (suffix_readAfterInteger reading).trans (List.suffix_cons _ _)
  · rename_i c cs _
    have taken := (suffix_takeDigits mantissaLimit (c.toNat - 48) cs).trans (List.suffix_cons c cs)
    split at reading
    · simp only at reading
      split at reading
      · have dropped := (List.dropWhile_suffix Char.isDigit).trans taken
        split at reading
        · rename_i point
          rw [point] at dropped
          exact (suffix_readFraction reading).trans ((List.suffix_cons _ _).trans dropped)
        · exact (suffix_readAfterDigits reading).trans dropped
      · exact (suffix_readAfterInteger reading).trans taken
    · cases reading

theorem suffix_readNumberAs {expected : String} {accept : Number → Except ReadError Json}
    (reading : readNumberAs expected accept cs = .ok (j, rest)) : rest <:+ cs := by
  simp only [readNumberAs, bind, Except.bind, pure, Except.pure] at reading
  split at reading
  · split at reading
    · cases reading
    rename_i number
    split at reading
    · cases reading
    cases reading
    exact (suffix_readNumber number).trans (List.suffix_cons _ _)
  · split at reading
    · split at reading
      · cases reading
      rename_i number
      split at reading
      · cases reading
      cases reading
      exact suffix_readNumber number
    · cases reading
  · cases reading

theorem suffix_readConstant {word : List Char} {value : Json} (reading : readConstant word value cs = .ok (j, rest)) :
    rest <:+ cs := by
  simp only [readConstant, bind, Except.bind, pure, Except.pure] at reading
  split at reading
  · cases reading
  · rename_i word
    cases reading
    exact suffix_readWord word

/-! ### Texts -/

/-- A measure of texts by their characters: each counts for something, those of ASCII for one, and none for more than
    four. The numbers of characters and of bytes are such measures. -/
structure IsMeasure (w : Char → Nat) : Prop where
  some_ : ∀ c, 1 ≤ w c
  few : ∀ c, w c ≤ 4
  ascii : ∀ c, c.toNat < 0x80 → w c = 1

/-- The size of a text by a measure. -/
def size (w : Char → Nat) (l : List Char) : Nat :=
  (l.map w).sum

section Size
variable {w : Char → Nat}

@[simp] theorem size_nil (w : Char → Nat) : size w [] = 0 := rfl

@[simp] theorem size_cons (w : Char → Nat) (c : Char) (l : List Char) : size w (c :: l) = w c + size w l := by
  simp [size]

@[simp] theorem size_append (w : Char → Nat) (l l' : List Char) : size w (l ++ l') = size w l + size w l' := by
  simp [size]

theorem size_le_of_suffix (suffix : rest <:+ cs) : size w rest ≤ size w cs := by
  obtain ⟨front, rfl⟩ := suffix
  rw [size_append]
  exact Nat.le_add_left _ _

theorem size_le_of_isInfix (inside : rest <:+: cs) : size w rest ≤ size w cs := by
  obtain ⟨front, back, rfl⟩ := inside
  rw [size_append, size_append]
  omega

theorem isMeasure_length : IsMeasure fun _ => 1 :=
  ⟨fun _ => le_rfl, fun _ => by decide, fun _ _ => rfl⟩

theorem size_length (l : List Char) : size (fun _ => 1) l = l.length := by
  simp [size]

theorem isMeasure_bytes : IsMeasure fun c => (utf8 c).length := by
  refine ⟨fun c => List.length_pos_iff.mpr (utf8_ne_nil c), fun c => ?_, fun c ascii => ?_⟩
  · simp only [utf8]
    split_ifs <;> simp
  · simp [utf8, ascii]

theorem size_bytes (l : List Char) : size (fun c => (utf8 c).length) l = utf8Length l := by
  simp [size, utf8Length, List.length_flatMap]

theorem toNat_shortEscape {c e : Char} (escape : shortEscape? c = some e) : e.toNat < 0x80 := by
  unfold shortEscape? at escape
  split_ifs at escape <;> cases escape <;> decide

/-- An escape by code point is as large as four characters of ASCII, and no character is larger. -/
theorem size_readCodePoint (measure : IsMeasure w) {c : Char} (reading : readCodePoint cs = .ok (c, rest)) :
    w c + size w rest ≤ size w cs ∧ rest <:+ cs := by
  have few := measure.few c
  have large (a b c d : Char) (rest : List Char) : 4 + size w rest ≤ size w (a :: b :: c :: d :: rest) := by
    have some_ := measure.some_
    have := some_ a
    have := some_ b
    have := some_ c
    have := some_ d
    simp only [size_cons]
    omega
  have four (a b c d : Char) (rest : List Char) : rest <:+ a :: b :: c :: d :: rest := ⟨[a, b, c, d], rfl⟩
  unfold readCodePoint at reading
  split at reading
  · rename_i a b c' d rest'
    split at reading
    · cases reading
    split at reading
    · cases reading
    split at reading
    · split at reading
      · cases reading
      · cases reading
      · rename_i a' b' c'' d' rest''
        split at reading
        · cases reading
        split at reading
        · obtain rfl : rest'' = rest := congrArg Prod.snd (Except.ok.inj reading)
          have pair : rest'' <:+ '\\' :: 'u' :: a' :: b' :: c'' :: d' :: rest'' := ⟨['\\', 'u', a', b', c'', d'], rfl⟩
          have first := large a b c' d ('\\' :: 'u' :: a' :: b' :: c'' :: d' :: rest'')
          have second := size_le_of_suffix (w := w) pair
          exact ⟨by omega, pair.trans (four a b c' d _)⟩
        · cases reading
      · cases reading
      · cases reading
    · obtain rfl : rest' = rest := congrArg Prod.snd (Except.ok.inj reading)
      have first := large a b c' d rest'
      exact ⟨by omega, four a b c' d rest'⟩
  · cases reading

theorem size_readEscape (measure : IsMeasure w) {c : Char} (reading : readEscape cs = .ok (c, rest)) :
    w c + size w rest ≤ size w cs ∧ rest <:+ cs := by
  unfold readEscape at reading
  split at reading
  · cases reading
  · rename_i d cs
    split at reading
    · rename_i escape
      cases reading
      have one := measure.ascii _ (toNat_shortEscape escape)
      have some_ := measure.some_ d
      exact ⟨by rw [size_cons]; omega, List.suffix_cons _ _⟩
    · split at reading
      · obtain ⟨smaller, suffix⟩ := size_readCodePoint measure reading
        exact ⟨by rw [size_cons]; omega, suffix.trans (List.suffix_cons _ _)⟩
      · cases reading

theorem size_readTextIn (measure : IsMeasure w) {l : List Char} (reading : readTextIn fuel cs = .ok (l, rest)) :
    size w l + size w rest < size w cs ∧ rest <:+ cs := by
  induction fuel generalizing cs l with
  | zero => cases reading
  | succ fuel ih =>
    cases cs with
    | nil => cases reading
    | cons c cs =>
      have some_ := measure.some_ c
      simp only [readTextIn, bind, Except.bind, pure, Except.pure] at reading
      split at reading
      · cases reading
        exact ⟨by rw [size_cons, size_nil]; omega, List.suffix_cons _ _⟩
      split at reading
      · split at reading
        · cases reading
        rename_i escape
        obtain ⟨smaller, suffix⟩ := size_readEscape measure escape
        split at reading
        · cases reading
        rename_i others
        cases reading
        obtain ⟨smaller', suffix'⟩ := ih others
        exact ⟨by simp only [size_cons]; omega, suffix'.trans (suffix.trans (List.suffix_cons _ _))⟩
      split at reading
      · cases reading
      split at reading
      · cases reading
      rename_i others
      cases reading
      obtain ⟨smaller, suffix⟩ := ih others
      exact ⟨by simp only [size_cons]; omega, suffix.trans (List.suffix_cons _ _)⟩

/-- A text is smaller than what is read for it. -/
theorem size_readText (measure : IsMeasure w) {s : String} (reading : readText cs = .ok (s, rest)) :
    size w s.toList + size w rest < size w cs ∧ rest <:+ cs := by
  simp only [readText, bind, Except.bind, pure, Except.pure] at reading
  split at reading
  · cases reading
  · rename_i inside
    cases reading
    simpa using size_readTextIn measure inside

/-! ### Arrays and objects -/

theorem suffix_nextItem {first more : Bool} (reading : nextItem first cs = .ok (more, rest)) : rest <:+ cs := by
  have spaces := suffix_skipSpace cs
  unfold nextItem at reading
  split at reading
  · cases reading
  · rename_i text
    cases reading
    exact (List.suffix_cons _ _).trans (text ▸ spaces)
  · rename_i c cs' _ text
    rw [text] at spaces
    split at reading
    · cases reading
      exact spaces
    split at reading
    · have later := (suffix_skipSpace cs').trans ((List.suffix_cons _ _).trans spaces)
      split at reading
      · cases reading
      · cases reading
      · cases reading
        exact later
    · cases reading

theorem suffix_nextKey {first more : Bool} (reading : nextKey first cs = .ok (more, rest)) : rest <:+ cs := by
  have spaces := suffix_skipSpace cs
  unfold nextKey at reading
  split at reading
  · cases reading
  · rename_i text
    cases reading
    exact (List.suffix_cons _ _).trans (text ▸ spaces)
  · rename_i c cs' _ text
    rw [text] at spaces
    split at reading
    · split at reading
      · cases reading
        exact (List.suffix_cons _ _).trans spaces
      · cases reading
    split at reading
    · have later := (suffix_skipSpace cs').trans ((List.suffix_cons _ _).trans spaces)
      split at reading
      · cases reading
      · rename_i quote
        cases reading
        exact (List.suffix_cons _ _).trans (quote ▸ later)
      · cases reading
      · cases reading
    · cases reading

theorem suffix_readColon (reading : readColon cs = .ok rest) : rest <:+ cs := by
  have spaces := suffix_skipSpace cs
  unfold readColon at reading
  split at reading
  · cases reading
  · rename_i text
    cases reading
    exact (List.suffix_cons _ _).trans (text ▸ spaces)
  · cases reading

/-- What is read of a text leaves an end of it, and a text that is read, or that a field holds, is smaller. -/
structure Taken (w : Char → Nat) (cs : List Char) (j : Json) (rest : List Char) : Prop where
  suffix : rest <:+ cs
  smaller : ∀ s, j = .str s → size w s.toList < size w cs
  inside : ∀ fields, j = .obj fields → ∀ f ∈ fields, ∀ s, f.2 = .str s → size w s.toList < size w cs

theorem Taken.mono {cs' : List Char} (taken : Taken w cs j rest) (suffix : cs <:+ cs') : Taken w cs' j rest where
  suffix := taken.suffix.trans suffix
  smaller := fun s text => (taken.smaller s text).trans_le (size_le_of_suffix suffix)
  inside := fun fields object f member s text =>
    (taken.inside fields object f member s text).trans_le (size_le_of_suffix suffix)

/-- What is read is taken from the text. -/
def Takes (w : Char → Nat) (read : List Char → Read Json) : Prop :=
  ∀ {cs rest : List Char} {j : Json}, read cs = .ok (j, rest) → Taken w cs j rest

variable {read : List Char → Read Json}

theorem suffix_readItems (takes : Takes w read) {first : Bool} {items : List Json}
    (reading : readItems read fuel first cs = .ok (items, rest)) : rest <:+ cs := by
  induction fuel generalizing first cs items with
  | zero => cases reading
  | succ fuel ih =>
    simp only [readItems, bind, Except.bind, pure, Except.pure] at reading
    split at reading
    · cases reading
    rename_i next
    have begins := suffix_nextItem next
    split at reading
    · split at reading
      · cases reading
      rename_i here
      split at reading
      · cases reading
      rename_i others
      cases reading
      exact (ih others).trans ((takes here).suffix.trans begins)
    · cases reading
      exact begins

/-- The fields of an object that hold texts hold smaller ones than what is read for the object. -/
theorem suffix_readEntries (measure : IsMeasure w) (takes : Takes w read) {first : Bool} {fields fields' : Fields}
    (reading : readEntries read fuel first fields cs = .ok (fields', rest)) :
    rest <:+ cs ∧ ∀ f ∈ fields', f ∈ fields ∨ ∀ s, f.2 = .str s → size w s.toList < size w cs := by
  induction fuel generalizing first cs fields with
  | zero => cases reading
  | succ fuel ih =>
    simp only [readEntries, bind, Except.bind, pure, Except.pure] at reading
    split at reading
    · cases reading
    rename_i next
    have begins := suffix_nextKey next
    split at reading
    · split at reading
      · cases reading
      rename_i key
      split at reading
      · cases reading
      rename_i colon
      split at reading
      · cases reading
      rename_i value here
      obtain ⟨j, after⟩ := value
      have valueIn := (suffix_readColon colon).trans ((size_readText measure key).2.trans begins)
      obtain ⟨suffix, smaller⟩ := ih reading
      have otherIn := (takes here).suffix.trans valueIn
      refine ⟨suffix.trans otherIn, fun f member => ?_⟩
      rcases smaller f member with earlier | later
      · rcases Assoc.mem_insert earlier with rfl | before
        · refine .inr fun s text => ?_
          exact ((takes here).smaller s text).trans_le (size_le_of_suffix valueIn)
        · exact .inl before
      · exact .inr fun s text => (later s text).trans_le (size_le_of_suffix otherIn)
    · cases reading
      exact ⟨begins, fun f member => .inl member⟩

/-! ### Documents -/

theorem taken_constant {word : List Char} {value : Json} (plain : ∀ s, value ≠ .str s)
    (plain' : ∀ fields, value ≠ .obj fields) (reading : readConstant word value cs = .ok (j, rest)) : Taken w cs j rest := by
  obtain rfl := of_readConstant reading
  exact ⟨suffix_readConstant reading, fun s text => absurd text (plain s),
    fun fields object => absurd object (plain' fields)⟩

theorem taken_number (reading : readNumberAs "" (fun n => .ok (.num n)) cs = .ok (j, rest)) : Taken w cs j rest := by
  have suffix := suffix_readNumberAs reading
  obtain ⟨n, rfl, -⟩ := of_readNumberAs reading
  exact ⟨suffix, by simp, by simp⟩

/-- A document is taken from the text, if what is inside of arrays and objects is. -/
theorem taken_readDocument (measure : IsMeasure w) {inner : Inner}
    (inside_ : ∀ value, inner = some value → Takes w (value .document))
    (reading : readDocument inner cs = .ok (j, rest)) : Taken w cs j rest := by
  unfold readDocument at reading
  split at reading
  · cases reading
  · exact (taken_constant (by simp) (by simp) reading).mono (List.suffix_cons _ _)
  · exact (taken_constant (by simp) (by simp) reading).mono (List.suffix_cons _ _)
  · exact (taken_constant (by simp) (by simp) reading).mono (List.suffix_cons _ _)
  · exact taken_number reading
  · simp only [bind, Except.bind, pure, Except.pure] at reading
    split at reading
    · cases reading
    rename_i cs' _ read text
    obtain ⟨s, after⟩ := read
    cases reading
    obtain ⟨smaller, suffix⟩ := size_readText measure text
    have taken : Taken w cs' (.str s) after := by
      refine ⟨suffix, fun s' same => ?_, by simp⟩
      obtain rfl := Json.str.inj same
      omega
    exact taken.mono (List.suffix_cons _ _)
  · simp only [readArray, inside, bind, Except.bind, pure, Except.pure] at reading
    split at reading
    · split at reading
      · cases reading
      rename_i value _ _ items
      cases reading
      have suffix := suffix_readItems (inside_ value rfl) items
      exact ⟨suffix.trans (List.suffix_cons _ _), by simp, by simp⟩
    · cases reading
  · rename_i cs'
    simp only [readObject, inside, bind, Except.bind, pure, Except.pure] at reading
    split at reading
    · split at reading
      · cases reading
      rename_i value _ read entries
      obtain ⟨fields, after⟩ := read
      cases reading
      obtain ⟨suffix, smaller⟩ := suffix_readEntries measure (inside_ value rfl) entries
      have taken : Taken w cs' (.obj fields) after := by
        refine ⟨suffix, by simp, fun fields same f member => ?_⟩
        cases same
        exact (smaller f member).resolve_left List.not_mem_nil
      exact taken.mono (List.suffix_cons _ _)
    · cases reading
  · split at reading
    · exact taken_number reading
    · cases reading

/-- A value of a document is taken from the text, however deep values are nested in it. -/
theorem takes_readValue (measure : IsMeasure w) (depth : Nat) : Takes w (readValue depth .document) := by
  induction depth with
  | zero =>
    intro cs rest j reading
    rw [readValue_document] at reading
    exact (taken_readDocument measure (by simp [innerOf]) reading).mono (suffix_skipSpace cs)
  | succ depth ih =>
    intro cs rest j reading
    rw [readValue_document] at reading
    have inside_ : ∀ value, innerOf (depth + 1) = some value → Takes w (value .document) := by
      rintro value same
      cases same
      exact ih
    exact (taken_readDocument measure inside_ reading).mono (suffix_skipSpace cs)

/-- What a whole text is read as is taken from it. -/
theorem taken_of_parse (measure : IsMeasure w) {text : String} (parsed : Json.parse text = .ok j) :
    ∃ rest, Taken w text.toList j rest := by
  simp only [parse, Json.read, bind, Except.bind, pure, Except.pure] at parsed
  split at parsed
  · cases parsed
  rename_i read value
  obtain ⟨j', rest⟩ := read
  split at parsed
  · cases parsed
  cases parsed
  exact ⟨rest, takes_readValue measure depthLimit value⟩

/-- A text that is read is smaller than the text in which it stands. -/
theorem size_lt_of_parse_text (measure : IsMeasure w) {text s : String} (parsed : Json.parse text = .ok (.str s)) :
    size w s.toList < size w text.toList := by
  obtain ⟨rest, taken⟩ := taken_of_parse measure parsed
  exact taken.smaller s rfl

/-- A text in a field of an object is smaller than the text of the object. -/
theorem size_lt_of_parse (measure : IsMeasure w) {text key s : String} {fields : Fields}
    (parsed : Json.parse text = .ok (.obj fields)) (found : Assoc.find? key fields = some (.str s)) :
    size w s.toList < size w text.toList := by
  obtain ⟨rest, taken⟩ := taken_of_parse measure parsed
  exact taken.inside fields rfl _ (Assoc.mem_of_find? found) s rfl

end Size

end DeviceTwin.Json
