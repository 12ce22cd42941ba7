import DeviceTwin.Text.Split
import Mathlib.Data.List.Infix

/-!
Splitting. A text is split at the first character or word of a kind, so what is put behind a text without one does not
change what stands in front; pieces that hold no separator are found again between separators, and a text is joined from
its pieces.
-/
namespace DeviceTwin.Text

variable {x c : Char} {word l l' : List Char}

theorem splitOnce_append (free : x ∉ l) (l' : List Char) : splitOnce x (l ++ x :: l') = some (l, l') := by
  induction l with
  | nil => simp [splitOnce]
  | cons c l ih =>
    rw [List.mem_cons, not_or] at free
    simp [splitOnce, Ne.symm free.1, ih free.2]

theorem splitOnce_of_free (free : x ∉ l) : splitOnce x l = none := by
  induction l with
  | nil => rfl
  | cons c l ih =>
    rw [List.mem_cons, not_or] at free
    simp [splitOnce, Ne.symm free.1, ih free.2]

theorem splitOnce_eq_some {p : List Char × List Char} : splitOnce x l = some p ↔ l = p.1 ++ x :: p.2 ∧ x ∉ p.1 := by
  obtain ⟨front, back⟩ := p
  constructor
  · intro split
    induction l generalizing front with
    | nil => cases split
    | cons c l ih =>
      rw [splitOnce] at split
      split at split
      · rename_i same
        cases split
        simp [same]
      · rename_i other
        obtain ⟨q, found, rest⟩ := Option.map_eq_some_iff.mp split
        cases rest
        obtain ⟨text, free⟩ := ih q.1 found
        exact ⟨by rw [text, List.cons_append], by simp [free, Ne.symm other]⟩
  · rintro ⟨rfl, free⟩
    exact splitOnce_append free back

theorem splitOnce_eq_none : splitOnce x l = none ↔ x ∉ l := by
  refine ⟨fun none_ there => ?_, splitOnce_of_free⟩
  obtain ⟨front, back, rfl, free⟩ := List.eq_append_cons_of_mem there
  rw [splitOnce_append free] at none_
  cases none_

/-! ### Words -/

/-- A word at the beginning is the first one. -/
theorem splitAtWord_append (proper : word ≠ []) (l : List Char) : splitAtWord word (word ++ l) = some ([], l) := by
  cases word with
  | nil => exact absurd rfl proper
  | cons c word =>
    have there : (c :: word).isPrefixOf (c :: (word ++ l)) = true :=
      List.isPrefixOf_iff_prefix.mpr (List.prefix_append _ _)
    rw [List.cons_append, splitAtWord, if_pos there, ← List.cons_append, List.drop_left]

theorem splitAtWord_eq_none (absent : ¬ word <:+: l) : splitAtWord word l = none := by
  induction l with
  | nil => rfl
  | cons c l ih =>
    have first : word.isPrefixOf (c :: l) = false := by
      rw [Bool.eq_false_iff]
      intro there
      exact absent (List.isPrefixOf_iff_prefix.mp there).isInfix
    have later : ¬ word <:+: l := fun there => absent (there.trans (List.infix_cons (List.infix_refl l)))
    rw [splitAtWord, first, ih later]
    rfl

/-- A word does not reach over a character that is not in it. -/
theorem infix_append_cons (foreign : x ∉ word) (there : word <:+: l ++ x :: l') : word <:+: l ∨ word <:+: l' := by
  rcases List.infix_append_iff.mp there with before | behind | ⟨front, back, rfl, ending, beginning⟩
  · exact .inl before
  · rcases List.infix_cons_iff.mp behind with here | later
    · cases word with
      | nil => exact .inl (List.nil_infix)
      | cons c word =>
        obtain rfl := (List.cons_prefix_cons.mp here).1
        exact absurd List.mem_cons_self foreign
    · exact .inr later
  · cases back with
    | nil => exact .inl (by simpa using ending.isInfix)
    | cons c back =>
      obtain rfl := (List.cons_prefix_cons.mp beginning).1
      exact absurd (by simp) foreign

/-- A word whose first character is nowhere else in it is found where nothing in front of it contains it. -/
theorem splitAtWord_eq_some {w : Char} {front rest : List Char} (single : w ∉ word) :
    splitAtWord (w :: word) l = some (front, rest) ↔
      l = front ++ (w :: word ++ rest) ∧ ¬ w :: word <:+: front := by
  constructor
  · intro found
    induction l generalizing front with
    | nil => cases found
    | cons c l ih =>
      rw [splitAtWord] at found
      split at found
      · rename_i here
        obtain ⟨rest', text⟩ := List.isPrefixOf_iff_prefix.mp here
        rw [← text, List.drop_left] at found
        cases found
        exact ⟨text.symm, by simp⟩
      · rename_i elsewhere
        obtain ⟨⟨front', rest'⟩, later, same⟩ := Option.map_eq_some_iff.mp found
        cases same
        obtain ⟨rfl, free⟩ := ih later
        refine ⟨rfl, fun there => ?_⟩
        rcases List.infix_cons_iff.mp there with here | behind
        · exact elsewhere (List.isPrefixOf_iff_prefix.mpr (here.trans (List.prefix_append (c :: front') _)))
        · exact free behind
  · rintro ⟨rfl, free⟩
    induction front with
    | nil => exact splitAtWord_append (List.cons_ne_nil _ _) rest
    | cons c front ih =>
      have elsewhere : (w :: word).isPrefixOf (c :: (front ++ (w :: word ++ rest))) = false := by
        rw [Bool.eq_false_iff]
        intro here
        rw [List.isPrefixOf_iff_prefix, ← List.cons_append] at here
        rcases List.prefix_or_prefix_of_prefix here (List.prefix_append _ _) with inside | ⟨overlap, text⟩
        · exact free inside.isInfix
        · rw [← text, List.prefix_append_right_inj] at here
          cases overlap with
          | nil => exact free (by rw [← text, List.append_nil])
          | cons w' overlap =>
            -- The word would begin a second time within itself.
            obtain rfl := (List.cons_prefix_cons.mp here).1
            obtain ⟨rfl, rfl⟩ := List.cons.inj text
            exact single (by simp)
      have later := ih fun there => free (List.infix_cons there)
      rw [List.cons_append, splitAtWord, elsewhere, later]
      rfl

/-! ### Pieces -/

section Pieces
variable {separates : Char → Bool}

theorem pieces_ne_nil (separates : Char → Bool) (l : List Char) : pieces separates l ≠ [] := by
  cases l with
  | nil => simp [pieces]
  | cons c l =>
    rw [pieces]
    split
    · simp
    · split <;> simp

theorem of_mem_pieces {piece : List Char} (member : piece ∈ pieces separates l) : ∀ c ∈ piece, separates c = false := by
  induction l generalizing piece with
  | nil =>
    obtain rfl := List.mem_singleton.mp member
    nofun
  | cons c l ih =>
    rw [pieces] at member
    split at member
    · rcases List.mem_cons.mp member with rfl | later
      · nofun
      · exact ih later
    · rename_i kept
      split at member
      · rename_i nothing
        exact absurd nothing (pieces_ne_nil separates l)
      · rename_i first more parts
        rcases List.mem_cons.mp member with rfl | later
        · rw [List.forall_mem_cons]
          exact ⟨by simpa using kept, ih (parts ▸ List.mem_cons_self)⟩
        · exact ih (parts ▸ List.mem_cons_of_mem _ later)

theorem pieces_of_free (free : ∀ c ∈ l, separates c = false) : pieces separates l = [l] := by
  induction l with
  | nil => rfl
  | cons c l ih =>
    rw [List.forall_mem_cons] at free
    simp [pieces, free.1, ih free.2]

/-- What stands in front of a separator is split on its own, and so is what stands behind it. -/
theorem pieces_append_cons (there : separates x = true) (l l' : List Char) :
    pieces separates (l ++ x :: l') = pieces separates l ++ pieces separates l' := by
  induction l with
  | nil => simp [pieces, there]
  | cons c l ih =>
    rw [List.cons_append, pieces, pieces, ih]
    split
    · rfl
    · cases parts : pieces separates l with
      | nil => exact absurd parts (pieces_ne_nil separates l)
      | cons piece more => rfl

/-- The first separator ends the first piece. -/
theorem pieces_append (free : ∀ c ∈ l, separates c = false) (there : separates x = true) (l' : List Char) :
    pieces separates (l ++ x :: l') = l :: pieces separates l' := by
  rw [pieces_append_cons there, pieces_of_free free, List.singleton_append]

/-- A piece is what stands, without a separator, between separators or the ends of the text. -/
theorem mem_pieces_iff {piece : List Char} : piece ∈ pieces separates l ↔
    ∃ before behind, l = before ++ (piece ++ behind) ∧ (∀ c ∈ piece, separates c = false) ∧
      (∀ c, before.getLast? = some c → separates c = true) ∧ ∀ c, behind.head? = some c → separates c = true := by
  constructor
  · intro member
    induction length : l.length using Nat.strong_induction_on generalizing l with
    | h n ih =>
      cases next : l.find? separates with
      | none =>
        have free : ∀ c ∈ l, separates c = false := by simpa using next
        rw [pieces_of_free free, List.mem_singleton] at member
        subst member
        exact ⟨[], [], by simp, free, by simp, by simp⟩
      | some x =>
        obtain ⟨there, first, rest, rfl, free⟩ := List.find?_eq_some_iff_append.mp next
        have free : ∀ c ∈ first, separates c = false := by simpa using free
        rw [pieces_append free there] at member
        rcases List.mem_cons.mp member with rfl | later
        · exact ⟨[], x :: rest, rfl, free, by simp, by simpa using there⟩
        · obtain ⟨before, behind, rfl, free', begins, ends⟩ := ih rest.length (by simp [← length]; omega) later rfl
          refine ⟨first ++ x :: before, behind, by simp, free', fun c last => ?_, ends⟩
          cases before with
          | nil =>
            rw [List.getLast?_concat] at last
            cases last
            exact there
          | cons y before => exact begins c (by simpa [List.getLast?_append] using last)
  · rintro ⟨before, behind, rfl, free, first, last⟩
    have here : piece ∈ pieces separates (piece ++ behind) := by
      cases behind with
      | nil => simp [pieces_of_free free]
      | cons x behind => simp [pieces_append free (last x rfl)]
    rcases List.eq_nil_or_concat' before with rfl | ⟨front, x, rfl⟩
    · exact here
    · rw [List.append_assoc, List.singleton_append, pieces_append_cons (first x (by simp))]
      exact List.mem_append_right _ here

/-- Parts without the separator are the pieces of the text that is joined from them. -/
theorem pieces_intercalate {parts : List (List Char)} (there : parts ≠ []) (free : ∀ part ∈ parts, x ∉ part) :
    pieces (· = x) ([x].intercalate parts) = parts := by
  have plain {part : List Char} (free : x ∉ part) : ∀ c ∈ part, decide (c = x) = false :=
    fun c member => decide_eq_false fun same => free (same ▸ member)
  induction parts with
  | nil => exact absurd rfl there
  | cons part parts ih =>
    rw [List.forall_mem_cons] at free
    cases parts with
    | nil => simpa using pieces_of_free (plain free.1)
    | cons next parts =>
      rw [List.intercalate_cons_cons, List.append_assoc, List.singleton_append,
        pieces_append (plain free.1) (decide_eq_true rfl), ih (by simp) free.2]

/-- A text is joined from its pieces. -/
theorem intercalate_pieces (x : Char) (l : List Char) : [x].intercalate (pieces (· = x) l) = l := by
  induction l with
  | nil => rfl
  | cons c l ih =>
    rw [pieces]
    cases parts : pieces (· = x) l with
    | nil => exact absurd parts (pieces_ne_nil _ l)
    | cons piece more =>
      rw [parts] at ih
      split
      · rename_i same
        rw [List.intercalate_cons_cons, ih, of_decide_eq_true same]
        rfl
      · cases more with
        | nil => simpa using ih
        | cons next more =>
          rw [List.intercalate_cons_cons] at ih ⊢
          rw [← ih]
          rfl

end Pieces

end DeviceTwin.Text
