import DeviceTwin.Proofs.Json.Extent
import DeviceTwin.Proofs.Registry.Failure.Shapes
import Mathlib.Data.List.Chain

/-!
Texts within texts. An object that is embedded in a text, or that is the body itself, can hold a text of the older form,
which is read in turn; no other text is read for it (`ErrorBody.readText_congr`). Such a text is shorter in bytes than
the one in which it stands (`ErrorBody.Encloses.shorter`), so reading ends, whatever the body is: a body of `n` bytes
takes at most `n` texts, one within the other, and the bound with which texts are read is never met
(`ErrorBody.readingEnds`).
-/
namespace DeviceTwin.Registry.ErrorBody
open DeviceTwin.Json DeviceTwin.Text

variable {l t before object : List Char} {fields : Fields} {body : String} {w : Char → Nat}
  {read read' : List Char → ErrorBody}

/-! ### Embedded objects -/

/-- What is left up to the last closing brace of a text that begins with an opening one has both braces at its ends. -/
theorem exists_braces {rest : List Char} (opens : rest.head? = some '\x7b')
    (some_ : dropTrailing (· ≠ '\x7d') rest ≠ []) :
    ∃ inside, dropTrailing (· ≠ '\x7d') rest = '\x7b' :: inside ++ ['\x7d'] := by
  obtain ⟨inner, d, ending⟩ := (List.eq_nil_or_concat' _).resolve_left some_
  have closes : d = '\x7d' := by
    simpa using of_getLast?_dropTrailing (l := rest) (p := (· ≠ '\x7d')) (by rw [ending, List.getLast?_concat])
  obtain ⟨behind, text⟩ := dropTrailing_prefix (· ≠ '\x7d') rest
  rw [← text, ending] at opens
  rw [ending, closes]
  cases inner with
  | nil =>
    rw [closes] at opens
    cases opens
  | cons c inside =>
    obtain rfl : c = '\x7b' := by simpa using opens
    exact ⟨inside, rfl⟩

/-- The embedded text reaches from the first opening brace to the last closing one. -/
theorem embedded?_eq_some : embedded? l = some (before, object) ↔ ∃ inside behind,
    object = '\x7b' :: inside ++ ['\x7d'] ∧ l = before ++ object ++ behind ∧ '\x7b' ∉ before ∧ '\x7d' ∉ behind := by
  constructor
  · intro found
    have noBrace : '\x7b' ∉ l.takeWhile (· ≠ '\x7b') := fun there => by simpa using List.mem_takeWhile_imp there
    have text : l.takeWhile (· ≠ '\x7b') ++ l.dropWhile (· ≠ '\x7b') = l := List.takeWhile_append_dropWhile
    have opening := List.head?_dropWhile_not (· ≠ '\x7b') l
    simp only [embedded?] at found
    generalize l.dropWhile (· ≠ '\x7b') = rest at found text opening
    split at found
    · cases found
    rename_i some_
    rw [List.isEmpty_iff] at some_
    cases found
    have opens : rest.head? = some '\x7b' := by
      cases rest with
      | nil => exact absurd rfl some_
      | cons c rest => simpa using opening
    obtain ⟨inside, braces⟩ := exists_braces opens some_
    have parts : dropTrailing (· ≠ '\x7d') rest ++ rest.rtakeWhile (· ≠ '\x7d') = rest :=
      List.rdropWhile_append_rtakeWhile
    have noBehind : '\x7d' ∉ rest.rtakeWhile (· ≠ '\x7d') := fun there => by simpa using List.mem_rtakeWhile_imp there
    exact ⟨inside, _, braces, by rw [List.append_assoc, parts, text], noBrace, noBehind⟩
  · rintro ⟨inside, behind, rfl, rfl, noBrace, noBehind⟩
    have front : ∀ c ∈ before, decide (c ≠ '\x7b') = true :=
      fun c member => decide_eq_true fun same => noBrace (same ▸ member)
    have back : ∀ c ∈ behind, decide (c ≠ '\x7d') = true :=
      fun c member => decide_eq_true fun same => noBehind (same ▸ member)
    have opened : ('\x7b' :: inside ++ ['\x7d'] ++ behind).dropWhile (· ≠ '\x7b') =
        '\x7b' :: inside ++ ['\x7d'] ++ behind := rfl
    have nothing : ('\x7b' :: inside ++ ['\x7d'] ++ behind).takeWhile (· ≠ '\x7b') = [] := rfl
    rw [embedded?, List.append_assoc, List.dropWhile_append_of_pos front, List.takeWhile_append_of_pos front, opened,
      nothing, dropTrailing_append_of_forall back, dropTrailing_concat (by decide), List.append_nil]
    rfl

/-- A text of an object is smaller than the text of the object. -/
theorem size_textField (measure : IsMeasure w) {key : String}
    (parsed : Json.parse (String.ofList object) = .ok (.obj fields)) (found : textField key fields = some t) :
    size w t < size w object := by
  obtain ⟨s, there, trimmed⟩ := Option.bind_eq_some_iff.mp found
  obtain ⟨j, held, text⟩ := Option.bind_eq_some_iff.mp there
  cases j with
  | str s' =>
    cases text
    have smaller := size_lt_of_parse measure parsed held
    rw [String.toList_ofList] at smaller
    exact (size_le_of_isInfix (infix_of_nonBlank? trimmed)).trans_lt smaller
  | _ => cases text

/-! ### Calls -/

/-- What is made of a text, where `again` reads the text within the text. -/
def readText (again : List Char → ErrorBody) (l : List Char) : ErrorBody :=
  match embedded? l with
  | some (before, object) =>
    match Json.parse (String.ofList object) with
    | .ok (.obj fields) => (ofFields again fields).orElse (ofPlainText before)
    | _ => ofPlainText l
  | none => ofPlainText l

/-- What is made of a body, where `again` reads the texts. -/
def readBody (again : List Char → ErrorBody) (body : String) : ErrorBody :=
  let l := trimChars body.toList
  if l.isEmpty then empty
  else match Json.parse (String.ofList l) with
    | .ok (.obj fields) => ofFields again fields
    | .ok (.str s) => again s.toList
    | _ => again l

/-- An object is embedded in a text and holds another one. -/
inductive Encloses : List Char → List Char → Prop where
  | embedded {l before object t : List Char} {fields : Fields} (found : embedded? l = some (before, object))
      (parsed : Json.parse (String.ofList object) = .ok (.obj fields)) (older : textField "Message" fields = some t) :
      Encloses l t

/-- A body is a text, or an object that holds one. -/
inductive BodyEncloses : String → List Char → Prop where
  | text {body s : String} (parsed : Json.parse (trim body) = .ok (.str s)) : BodyEncloses body s.toList
  | field {body : String} {t : List Char} {fields : Fields} (parsed : Json.parse (trim body) = .ok (.obj fields))
      (older : textField "Message" fields = some t) : BodyEncloses body t

theorem Encloses.smaller (measure : IsMeasure w) (encloses : Encloses l t) : size w t < size w l := by
  obtain ⟨found, parsed, older⟩ := encloses
  obtain ⟨inside, behind, -, rfl, -⟩ := embedded?_eq_some.mp found
  have within := size_textField measure parsed older
  rw [size_append, size_append]
  omega

theorem BodyEncloses.smaller (measure : IsMeasure w) (encloses : BodyEncloses body t) :
    size w t < size w (trimChars body.toList) := by
  cases encloses with
  | text parsed =>
    have smaller := size_lt_of_parse_text measure parsed
    rwa [trim, String.toList_ofList] at smaller
  | field parsed older => exact size_textField measure parsed older

/-- A text within a text is more than blanks. -/
theorem Encloses.ne_nil (encloses : Encloses l t) : t ≠ [] := by
  obtain ⟨-, -, older⟩ := encloses
  obtain ⟨s, -, trimmed⟩ := Option.bind_eq_some_iff.mp older
  exact ne_nil_of_nonBlank? trimmed

/-- A text within a text is shorter in bytes. -/
theorem Encloses.shorter (encloses : Encloses l t) : utf8Length t < utf8Length l := by
  rw [← size_bytes, ← size_bytes]
  exact encloses.smaller isMeasure_bytes

theorem BodyEncloses.shorter (encloses : BodyEncloses body t) : utf8Length t < utf8Length (trimChars body.toList) := by
  rw [← size_bytes, ← size_bytes]
  exact encloses.smaller isMeasure_bytes

theorem ofFields_congr_older (same : ∀ t, textField "Message" fields = some t → read t = read' t) :
    ofFields read fields = ofFields read' fields := by
  simp only [ofFields]
  split
  · rename_i t found
    rw [same t found]
  · rfl

/-- For a text only the text is read that it holds. -/
theorem readText_congr (same : ∀ t, Encloses l t → read t = read' t) : readText read l = readText read' l := by
  unfold readText
  split
  · rename_i before object found
    split
    · rename_i fields parsed
      rw [ofFields_congr_older fun t older => same t (.embedded found parsed older)]
    · rfl
  · rfl

/-- For a body only the text is read that it holds, or the body itself. -/
theorem readBody_congr (whole : read (trimChars body.toList) = read' (trimChars body.toList))
    (same : ∀ t, BodyEncloses body t → read t = read' t) : readBody read body = readBody read' body := by
  simp only [readBody]
  split
  · rfl
  · split
    · rename_i fields parsed
      exact ofFields_congr_older fun t older => same t (.field parsed older)
    · rename_i s parsed
      exact same _ (.text parsed)
    · exact whole

/-! ### The bound -/

theorem ofText_succ (depth : Nat) (l : List Char) : ofText (depth + 1) l = readText (ofText depth) l := rfl

/-- What a text says does not depend on the bound, if that is not below its length. -/
theorem ofText_depth {n m : Nat} (enough : l.length ≤ n) (enough' : l.length ≤ m) : ofText n l = ofText m l := by
  induction n generalizing l m with
  | zero =>
    obtain rfl := List.eq_nil_of_length_eq_zero (Nat.le_zero.mp enough)
    rw [ofText_noObject List.not_mem_nil, ofText_noObject List.not_mem_nil]
  | succ n ih =>
    cases m with
    | zero =>
      obtain rfl := List.eq_nil_of_length_eq_zero (Nat.le_zero.mp enough')
      rw [ofText_noObject List.not_mem_nil, ofText_noObject List.not_mem_nil]
    | succ m =>
      rw [ofText_succ, ofText_succ]
      refine readText_congr fun t encloses => ?_
      -- The text within is shorter, so what is left of the bounds is enough for it.
      have shorter := encloses.smaller isMeasure_length
      rw [size_length, size_length] at shorter
      exact ih (by omega) (by omega)

/-- A reader of texts without a bound: for a text within a text it is used again. -/
def Unbounded (read : List Char → ErrorBody) : Prop :=
  ∀ l, read l = readText read l

/-- A text is read with its length as the bound. -/
def ofWhole (l : List Char) : ErrorBody :=
  ofText l.length l

theorem unbounded_ofWhole : Unbounded ofWhole := by
  intro l
  have more : ofWhole l = ofText (l.length + 1) l := ofText_depth (Nat.le_refl _) (Nat.le_succ _)
  rw [more, ofText_succ]
  refine readText_congr fun t encloses => ?_
  have shorter := encloses.smaller isMeasure_length
  rw [size_length, size_length] at shorter
  exact ofText_depth shorter.le (Nat.le_refl _)

/-- There is no other reader without a bound. -/
theorem Unbounded.eq_ofWhole (unbounded : Unbounded read) : read = ofWhole := by
  funext l
  induction bytes : utf8Length l using Nat.strongRecOn generalizing l with
  | ind n ih =>
    subst bytes
    rw [unbounded l, unbounded_ofWhole l]
    exact readText_congr fun t encloses => ih _ encloses.shorter t rfl

theorem ofBody_eq_readBody (body : String) : ofBody body = readBody ofWhole body := by
  have whole : ofBody body = readBody (ofText (trimChars body.toList).length) body := by
    cases parsed : Json.parse (String.ofList (trimChars body.toList)) with
    | error e => simp only [ofBody, readBody, parsed]
    | ok j => cases j <;> simp only [ofBody, readBody, parsed]
  rw [whole]
  refine readBody_congr rfl fun t encloses => ?_
  have shorter := encloses.smaller isMeasure_length
  rw [size_length, size_length] at shorter
  exact ofText_depth shorter.le (Nat.le_refl _)

theorem utf8Length_pos (there : l ≠ []) : 0 < utf8Length l := by
  obtain ⟨c, rest, rfl⟩ := List.exists_cons_of_ne_nil there
  have some_ := isMeasure_bytes.some_ c
  rw [← size_bytes, size_cons]
  omega

/-- Behind a text there are fewer texts within one another than the text has bytes. -/
theorem length_le_of_isChain {texts : List (List Char)} (chain : (l :: texts).IsChain Encloses) :
    texts.length ≤ utf8Length l - 1 := by
  induction texts generalizing l with
  | nil => exact Nat.zero_le _
  | cons t texts ih =>
    obtain ⟨encloses, rest⟩ := List.isChain_cons_cons.mp chain
    have shorter := encloses.shorter
    have some_ := utf8Length_pos encloses.ne_nil
    have later := ih rest
    rw [List.length_cons]
    omega

/-- The first text that is read for a body. -/
inductive Begins (body : String) : List Char → Prop where
  | within {t : List Char} (encloses : BodyEncloses body t) : Begins body t
  | whole (there : trimChars body.toList ≠ []) : Begins body (trimChars body.toList)

/-- Reading a body ends: only texts within texts are read, which get shorter and shorter. -/
structure ReadingEnds (body : String) : Prop where
  /-- For a text, no other texts are read than those that it encloses. -/
  enclosed : ∀ (read read' : List Char → ErrorBody) (l : List Char),
    (∀ t, Encloses l t → read t = read' t) → readText read l = readText read' l
  /-- For the body it is the text that it encloses, or the body itself. -/
  enclosedByBody : ∀ read read' : List Char → ErrorBody, read (trimChars body.toList) = read' (trimChars body.toList) →
    (∀ t, BodyEncloses body t → read t = read' t) → readBody read body = readBody read' body
  /-- A text is longer in bytes than any that it encloses. -/
  shorter : ∀ l t, Encloses l t → utf8Length t < utf8Length l
  /-- So is the body, even without the blanks around it. -/
  shorterThanBody : ∀ t, BodyEncloses body t → utf8Length t < utf8Length (trimChars body.toList)
  /-- There are no more texts within one another than the body has bytes. -/
  bounded : ∀ l texts, Begins body l → (l :: texts).IsChain Encloses →
    (l :: texts).length ≤ utf8Length body.toList
  /-- One reader reads texts without a bound, and what the body says is what it reads. -/
  unbounded : ∃ read, Unbounded read ∧ (∀ other, Unbounded other → other = read) ∧ ofBody body = readBody read body

theorem readingEnds (body : String) : ReadingEnds body where
  enclosed _ _ _ := readText_congr
  enclosedByBody _ _ := readBody_congr
  shorter _ _ := Encloses.shorter
  shorterThanBody _ := BodyEncloses.shorter
  bounded l texts begins chain := by
    obtain ⟨front, back, text, -⟩ := exists_padding body.toList
    have trimmed : utf8Length (trimChars body.toList) ≤ utf8Length body.toList := by
      rw [← size_bytes, ← size_bytes]
      exact size_le_of_isInfix ⟨front, back, text.symm⟩
    have behind := length_le_of_isChain chain
    rw [List.length_cons]
    cases begins with
    | within encloses =>
      have shorter := encloses.shorter
      omega
    | whole there =>
      have some_ := utf8Length_pos there
      omega
  unbounded := ⟨ofWhole, unbounded_ofWhole, fun _ unbounded => unbounded.eq_ofWhole, ofBody_eq_readBody body⟩

end DeviceTwin.Registry.ErrorBody
