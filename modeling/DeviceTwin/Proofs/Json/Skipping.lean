import DeviceTwin.Proofs.Json.Document

/-!
Passing over values. A reader that does not care about a value passes over the text of it and nothing else
(`skipValue_write`), whatever brackets are open around it: the value takes at most two steps for each of its characters
(`Passes`).
-/
namespace DeviceTwin.Json
open DeviceTwin.Number DeviceTwin.Text

variable {c : Char} {l rest : List Char} {fuel : Nat} {j : Json}

/-! ### Texts and numbers -/

theorem skipText_escapeChar (fuel : Nat) (c : Char) (cs : List Char) :
    skipText (fuel + 1) (escapeChar c ++ cs) = skipText fuel cs := by
  unfold escapeChar
  split
  · rfl
  split
  · rfl
  split
  · rfl
  split
  · rfl
  split
  · rfl
  split
  · rfl
  split
  · rfl
  split
  · rename_i control
    obtain ⟨x, y, z, w, digits, number⟩ := hex4?_padded c.toNat control
    have escape : skipText (fuel + 1) ('\\' :: 'u' :: x :: y :: z :: w :: cs) =
        if (hex4? x y z w).isSome then skipText fuel cs else .error .invalidEscape := rfl
    rw [digits]
    exact escape.trans (by simp [number])
  · rename_i quote slash _ _ _ _ _ printable
    simp only [List.cons_append, List.nil_append, skipText, if_neg quote, if_neg slash, if_neg printable]

theorem skipText_escaped (enough : l.length < fuel) (rest : List Char) :
    skipText fuel (l.flatMap escapeChar ++ '"' :: rest) = .ok rest := by
  induction l generalizing fuel with
  | nil =>
    cases fuel with
    | zero => cases enough
    | succ fuel => rfl
  | cons c l ih =>
    cases fuel with
    | zero => cases enough
    | succ fuel =>
      rw [List.flatMap_cons, List.append_assoc, skipText_escapeChar]
      exact ih (Nat.lt_of_succ_lt_succ enough)

/-- A text is passed over, up to the quote that closes it. -/
theorem skipText_write (l rest : List Char) :
    skipText ((l.flatMap escapeChar ++ '"' :: rest).length + 1) (l.flatMap escapeChar ++ '"' :: rest) = .ok rest := by
  apply skipText_escaped
  have shorter := length_le_escaped l
  rw [List.length_append]
  omega

theorem skipAfterInteger_delimited (delimited : Delimited rest) : skipAfterInteger rest = .ok rest := by
  cases rest with
  | nil => rfl
  | cons c rest => rcases delimited with rfl | rfl | rfl <;> rfl

theorem skipNumber_decimal (delimited : Delimited rest) (n : Nat) : skipNumber (decimal n ++ rest) = .ok rest := by
  obtain ⟨digits, zero | ⟨c, tail, numeral, leading⟩⟩ := numeral_decimal n
  · rw [zero]
    simp [skipNumber, delimited.ends, skipAfterInteger_delimited delimited]
  · rw [numeral] at digits ⊢
    have starts : startsWithDigit (c :: tail ++ rest) = true := digits c List.mem_cons_self
    rw [List.cons_append, skipNumber.eq_2 _ (fun _ same => leading (List.cons.inj same).1), ← List.cons_append,
      if_pos starts, dropWhile_digits digits delimited.ends, skipAfterInteger_delimited delimited]

/-! ### Steps -/

/-- What is done after a value, inside of the open brackets. -/
def resume (fuel : Nat) (open_ : List Bracket) (rest : List Char) : Except ReadError (List Char) :=
  if open_.isEmpty then .ok rest else skipIn fuel (.next true) open_ rest

/-- The character that closes a bracket. -/
def closing (object : Bracket) : Char :=
  if object then '\x7d' else ']'

theorem skipIn_comma (fuel : Nat) (object : Bracket) (outer : List Bracket) (cs : List Char) :
    skipIn (fuel + 1) (.next true) (object :: outer) (',' :: cs) = skipIn fuel .entry (object :: outer) cs := rfl

theorem skipIn_closing (fuel : Nat) (comma : Bool) (object : Bracket) (outer : List Bracket) (rest : List Char) :
    skipIn (fuel + 1) (.next comma) (object :: outer) (closing object :: rest) = resume fuel outer rest := by
  cases object <;> cases comma <;> rfl

/-- The first item or field stands right behind the bracket. -/
theorem skipIn_first {object : Bracket} (space : isSpace c = false) (inside : c ≠ closing object) (fuel : Nat)
    (outer : List Bracket) (cs : List Char) :
    skipIn (fuel + 1) (.next false) (object :: outer) (c :: cs) = skipIn fuel .entry (object :: outer) (c :: cs) := by
  have skips : skipSpace (c :: cs) = c :: cs := List.dropWhile_cons_of_neg (by simp [space])
  have inside : ¬ c = if object then '\x7d' else ']' := inside
  rw [skipIn]
  simp [skips, inside]

/-- A number is passed over in one step. -/
theorem skipIn_number (delimited : Delimited rest) (fuel : Nat) (open_ : List Bracket) (n : Int) :
    skipIn (fuel + 1) .value open_ (signedDecimal n ++ rest) = resume fuel open_ rest := by
  by_cases negative : n < 0
  · have text : signedDecimal n ++ rest = '-' :: (decimal n.natAbs ++ rest) := by simp [signedDecimal, negative]
    have minus (cs : List Char) : skipIn (fuel + 1) .value open_ ('-' :: cs) =
        skipNumber cs >>= fun rest => resume fuel open_ rest := rfl
    rw [text, minus, skipNumber_decimal delimited]
    rfl
  · have text : signedDecimal n = decimal n.natAbs := by simp [signedDecimal, negative]
    have number := skipNumber_decimal delimited n.natAbs
    cases numeral : decimal n.natAbs with
    | nil => exact absurd numeral (decimal_ne_nil _)
    | cons c tail =>
      have digit : c.isDigit = true := isDigit_decimal n.natAbs c (by rw [numeral]; exact List.mem_cons_self)
      rw [numeral] at number
      rw [text, numeral]
      have skips := skipSpace_of_begins (begins_digit digit (tail ++ rest))
      rw [skipIn, List.cons_append, skips]
      split
      · rename_i same
        cases same
      all_goals
        rename_i same
        cases same
      any_goals cases digit
      rw [if_pos digit, ← List.cons_append, number]
      rfl

/-! ### Values -/

/-- A value is passed over in at most two steps for each of its characters. -/
def Passes (j : Json) : Prop :=
  ∀ open_ rest, Delimited rest → ∃ used, used ≤ 2 * j.write.length ∧
    ∀ fuel, skipIn (fuel + used) .value open_ (j.write ++ rest) = resume fuel open_ rest

/-- So is an item or a field, but for one step more. -/
def PassesEntry (object : Bracket) (entry : List Char) : Prop :=
  ∀ outer rest, Delimited rest → ∃ used, used ≤ 2 * entry.length + 1 ∧
    ∀ fuel, skipIn (fuel + used) .entry (object :: outer) (entry ++ rest) =
      skipIn fuel (.next true) (object :: outer) rest

theorem Passes.item (passes : Passes j) : PassesEntry false j.write := by
  intro outer rest delimited
  obtain ⟨used, bound, steps⟩ := passes (false :: outer) rest delimited
  exact ⟨used + 1, by omega, steps⟩

theorem Passes.field {f : String × Json} (passes : Passes f.2) : PassesEntry true (writeField f) := by
  intro outer rest delimited
  obtain ⟨used, bound, steps⟩ := passes (true :: outer) rest delimited
  refine ⟨used + 1, ?_, ?_⟩
  · simp only [writeField, List.length_append, List.length_cons]
    omega
  · intro fuel
    have text : writeField f ++ rest =
        '"' :: (f.1.toList.flatMap escapeChar ++ '"' :: ':' :: (f.2.write ++ rest)) := by
      simp [writeField, writeText]
    have entry (cs : List Char) : skipIn (fuel + used + 1) .entry (true :: outer) ('"' :: cs) =
        skipText (cs.length + 1) cs >>= _ := rfl
    rw [text, ← Nat.add_assoc, entry, skipText_write]
    exact steps fuel

/-- Items or fields after the first one, each behind a comma. -/
theorem passes_tail {object : Bracket} {entries : List (List Char)}
    (passes : ∀ entry ∈ entries, PassesEntry object entry) (outer : List Bracket) (rest : List Char) :
    ∃ used, used ≤ 2 * (entries.flatMap fun entry => ',' :: entry).length + 1 ∧
      ∀ fuel, skipIn (fuel + used) (.next true) (object :: outer)
        ((entries.flatMap fun entry => ',' :: entry) ++ closing object :: rest) = resume fuel outer rest := by
  induction entries with
  | nil => exact ⟨1, Nat.le_refl 1, fun fuel => skipIn_closing fuel true object outer rest⟩
  | cons entry entries ih =>
    rw [List.forall_mem_cons] at passes
    obtain ⟨used, bound, steps⟩ := ih passes.2
    have delimited : Delimited ((entries.flatMap fun entry => ',' :: entry) ++ closing object :: rest) := by
      cases entries with
      | nil => cases object <;> simp [Delimited, closing]
      | cons entry entries => exact .inl rfl
    obtain ⟨used', bound', steps'⟩ := passes.1 outer _ delimited
    refine ⟨used + used' + 1, ?_, ?_⟩
    · simp only [List.flatMap_cons, List.length_append, List.length_cons]
      omega
    · intro fuel
      have text : ((entry :: entries).flatMap fun entry => ',' :: entry) ++ closing object :: rest =
          ',' :: (entry ++ ((entries.flatMap fun entry => ',' :: entry) ++ closing object :: rest)) := by
        simp
      rw [text, ← Nat.add_assoc, ← Nat.add_assoc, skipIn_comma, steps', steps]

/-- What is between two brackets. -/
theorem passes_inside {object : Bracket} {entry : List Char} {entries : List (List Char)}
    (passes : ∀ e ∈ entry :: entries, PassesEntry object e)
    (begins : ∃ c tail, entry = c :: tail ∧ isSpace c = false ∧ c ≠ closing object) (outer : List Bracket)
    (rest : List Char) :
    ∃ used, used ≤ 2 * (entry ++ entries.flatMap fun entry => ',' :: entry).length + 3 ∧
      ∀ fuel, skipIn (fuel + used) (.next false) (object :: outer)
        ((entry ++ entries.flatMap fun entry => ',' :: entry) ++ closing object :: rest) = resume fuel outer rest := by
  rw [List.forall_mem_cons] at passes
  obtain ⟨used, bound, steps⟩ := passes_tail passes.2 outer rest
  have delimited : Delimited ((entries.flatMap fun entry => ',' :: entry) ++ closing object :: rest) := by
    cases entries with
    | nil => cases object <;> simp [Delimited, closing]
    | cons entry entries => exact .inl rfl
  obtain ⟨used', bound', steps'⟩ := passes.1 outer _ delimited
  obtain ⟨c, tail, rfl, space, inside⟩ := begins
  refine ⟨used + used' + 1, ?_, ?_⟩
  · simp only [List.length_append] at bound bound' ⊢
    omega
  · intro fuel
    rw [List.append_assoc, ← Nat.add_assoc, ← Nat.add_assoc, List.cons_append, skipIn_first space inside,
      ← List.cons_append, steps', steps]

/-- Every value without floating-point numbers is passed over. -/
theorem passes {depth : Nat} (document : IsDocument depth j) (exact_ : Exact j) : Passes j := by
  induction document with
  | null => exact fun open_ rest _ => ⟨1, by decide, fun fuel => rfl⟩
  | bool _ b =>
    intro open_ rest _
    refine ⟨1, ?_, ?_⟩
    · cases b <;> decide
    · intro fuel
      cases b <;> rfl
  | num _ number =>
    intro open_ rest delimited
    cases exact_ with
    | int n =>
      refine ⟨1, ?_, fun fuel => skipIn_number delimited fuel open_ n⟩
      obtain ⟨c, tail, text, _⟩ := begins_number number
      rw [write, text, List.length_cons]
      omega
  | str _ s =>
    intro open_ rest _
    refine ⟨1, ?_, ?_⟩
    · simp only [write, writeText, List.length_append, List.length_cons]
      omega
    · intro fuel
      have text : (Json.str s).write ++ rest = '"' :: (s.toList.flatMap escapeChar ++ '"' :: rest) := by
        simp [write, writeText]
      have value (cs : List Char) : skipIn (fuel + 1) .value open_ ('"' :: cs) =
          skipText (cs.length + 1) cs >>= fun rest => resume fuel open_ rest := rfl
      rw [text, value, skipText_write]
      rfl
  | @arr depth items inside ih =>
    intro open_ rest _
    cases exact_ with
    | arr exact_ =>
      have step (fuel : Nat) (cs : List Char) :
          skipIn (fuel + 1) .value open_ ('[' :: cs) = skipIn fuel (.next false) (false :: open_) cs := rfl
      cases items with
      | nil => exact ⟨2, by decide, fun fuel => skipIn_closing fuel false false open_ rest⟩
      | cons k items =>
        have entries : ∀ e ∈ k.write :: items.map write, PassesEntry false e := by
          intro e member
          obtain ⟨i, here, rfl⟩ := List.mem_map.mp (show e ∈ (k :: items).map write from member)
          exact (ih i here (exact_ i here)).item
        have tail : itemsTail items = (items.map write).flatMap fun entry => ',' :: entry := by
          rw [List.flatMap_map]
          rfl
        obtain ⟨used, bound, steps⟩ := passes_inside entries (begins_write (inside k List.mem_cons_self)) open_ rest
        refine ⟨used + 1, ?_, ?_⟩
        · simp only [write, writeItems_cons, tail, List.cons_append, List.length_append, List.length_cons] at bound ⊢
          omega
        · intro fuel
          have text : (Json.arr (k :: items)).write ++ rest =
              '[' :: ((k.write ++ (items.map write).flatMap fun entry => ',' :: entry) ++ ']' :: rest) := by
            simp [write, writeItems_cons, tail]
          rw [text, ← Nat.add_assoc, step]
          exact steps fuel
  | @obj depth fields inside ih =>
    intro open_ rest _
    cases exact_ with
    | obj distinct exact_ =>
      have step (fuel : Nat) (cs : List Char) :
          skipIn (fuel + 1) .value open_ ('\x7b' :: cs) = skipIn fuel (.next false) (true :: open_) cs := rfl
      cases fields with
      | nil => exact ⟨2, by decide, fun fuel => skipIn_closing fuel false true open_ rest⟩
      | cons f fields =>
        have entries : ∀ e ∈ writeField f :: fields.map writeField, PassesEntry true e := by
          intro e member
          obtain ⟨g, here, rfl⟩ := List.mem_map.mp (show e ∈ (f :: fields).map writeField from member)
          exact (ih g here (exact_ g here)).field
        have tail : fieldsTail fields = (fields.map writeField).flatMap fun entry => ',' :: entry := by
          rw [List.flatMap_map]
          rfl
        have begins : ∃ c cs, writeField f = c :: cs ∧ isSpace c = false ∧ c ≠ closing true :=
          ⟨'"', _, rfl, rfl, by decide⟩
        obtain ⟨used, bound, steps⟩ := passes_inside entries begins open_ rest
        refine ⟨used + 1, ?_, ?_⟩
        · simp only [write, writeFields_cons, tail, List.cons_append, List.length_append, List.length_cons] at bound ⊢
          omega
        · intro fuel
          have text : (Json.obj (f :: fields)).write ++ rest =
              '\x7b' :: ((writeField f ++ (fields.map writeField).flatMap fun entry => ',' :: entry) ++ '\x7d' :: rest) := by
            simp [write, writeFields_cons, tail]
          rw [text, ← Nat.add_assoc, step]
          exact steps fuel

/-- The text of a value is passed over, and nothing else. -/
theorem skipValue_write {depth : Nat} (document : IsDocument depth j) (exact_ : Exact j) (delimited : Delimited rest) :
    skipValue (j.write ++ rest) = .ok rest := by
  obtain ⟨used, bound, steps⟩ := passes document exact_ [] rest delimited
  have enough : ∃ fuel, 2 * (j.write ++ rest).length + 2 = fuel + used := by
    refine ⟨2 * (j.write ++ rest).length + 2 - used, ?_⟩
    rw [List.length_append]
    omega
  obtain ⟨fuel, same⟩ := enough
  rw [skipValue, same, steps]
  rfl

end DeviceTwin.Json
