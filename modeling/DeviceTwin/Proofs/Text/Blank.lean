import DeviceTwin.Text.Blank
import Mathlib.Data.List.DropRight

/-!
Trimming. A text without blanks is left alone; in front of a text that is not blank, another one loses nothing
at its end; and trimming is the same whether or not blanks at the ends have been dropped or added before.
-/
namespace DeviceTwin.Text

variable {p : Char → Bool} {l l' : List Char} {c : Char}

/-- Between the space and the first blank beyond ASCII there is none. -/
theorem isBlank_eq_false (high : 0x20 < c.toNat) (low : c.toNat < 0x85) : isBlank c = false := by
  simp [isBlank, inRanges, blankRanges]
  omega

theorem dropTrailing_prefix (p : Char → Bool) (l : List Char) : dropTrailing p l <+: l :=
  List.rdropWhile_prefix p l

theorem dropTrailing_idempotent (p : Char → Bool) (l : List Char) :
    dropTrailing p (dropTrailing p l) = dropTrailing p l :=
  List.rdropWhile_idempotent p l

theorem dropTrailing_concat (kept : p c = false) (l : List Char) : dropTrailing p (l ++ [c]) = l ++ [c] :=
  List.rdropWhile_concat_neg p l c (by simp [kept])

theorem of_getLast?_dropTrailing (last : (dropTrailing p l).getLast? = some c) : p c = false := by
  have kept := List.head?_dropWhile_not p l.reverse
  rw [dropTrailing, List.getLast?_reverse] at last
  rwa [last] at kept

/-- A text that is not dropped as a whole protects what is in front of it. -/
theorem dropTrailing_append (kept : dropTrailing p l' ≠ []) (l : List Char) :
    dropTrailing p (l ++ l') = l ++ dropTrailing p l' := by
  have rest : (l'.reverse.dropWhile p).isEmpty = false := by
    rw [dropTrailing] at kept
    simpa using kept
  rw [dropTrailing, dropTrailing, List.reverse_append, List.dropWhile_append, rest, if_neg (by simp),
    List.reverse_append, List.reverse_reverse]

theorem dropTrailing_cons (p : Char → Bool) (c : Char) (l : List Char) :
    dropTrailing p (c :: l) =
      if dropTrailing p l = [] then (if p c then [] else [c]) else c :: dropTrailing p l := by
  by_cases nothing : dropTrailing p l = []
  · rw [if_pos nothing]
    have all := List.rdropWhile_eq_nil_iff.mp nothing
    rw [dropTrailing, List.reverse_cons, List.dropWhile_append_of_pos (by simpa using all)]
    cases dropped : p c <;> simp [dropped]
  · rw [if_neg nothing]
    exact dropTrailing_append nothing [c]

/-- The two ends of a text are dropped independently of each other. -/
theorem dropWhile_dropTrailing (p : Char → Bool) (l : List Char) :
    (dropTrailing p l).dropWhile p = dropTrailing p (l.dropWhile p) := by
  induction l with
  | nil => rfl
  | cons c l ih =>
    cases dropped : p c with
    | false =>
      rw [List.dropWhile_cons_of_neg (by simp [dropped]), dropTrailing_cons]
      split <;> simp [dropped]
    | true =>
      rw [List.dropWhile_cons_of_pos dropped, ← ih, dropTrailing_cons]
      split
      · rename_i nothing
        simp [nothing]
      · rw [List.dropWhile_cons_of_pos dropped]

theorem trimChars_dropTrailing (l : List Char) : trimChars (dropTrailing isBlank l) = trimChars l := by
  rw [trimChars, trimChars, dropWhile_dropTrailing, dropTrailing_idempotent]

theorem dropTrailing_append_of_forall (dropped : ∀ c ∈ l', p c = true) (l : List Char) :
    dropTrailing p (l ++ l') = dropTrailing p l := by
  rw [dropTrailing, dropTrailing, List.reverse_append, List.dropWhile_append_of_pos (by simpa using dropped)]

/-- Blanks around a text do not count. -/
theorem trimChars_pad {front back : List Char} (before : ∀ c ∈ front, isBlank c = true)
    (behind : ∀ c ∈ back, isBlank c = true) (l : List Char) : trimChars (front ++ l ++ back) = trimChars l := by
  rw [← trimChars_dropTrailing, dropTrailing_append_of_forall behind, trimChars_dropTrailing, trimChars, trimChars,
    List.dropWhile_append_of_pos before]

/-- A text is its trimmed part with blanks around it. -/
theorem exists_padding (l : List Char) : ∃ front back, l = front ++ trimChars l ++ back ∧
    (∀ c ∈ front, isBlank c = true) ∧ ∀ c ∈ back, isBlank c = true := by
  refine ⟨l.takeWhile isBlank, (l.dropWhile isBlank).rtakeWhile isBlank, ?_, ?_, ?_⟩
  · have ending : trimChars l ++ (l.dropWhile isBlank).rtakeWhile isBlank = l.dropWhile isBlank :=
      List.rdropWhile_append_rtakeWhile
    rw [List.append_assoc, ending, List.takeWhile_append_dropWhile]
  · exact fun c member => List.mem_takeWhile_imp member
  · exact fun c member => List.mem_rtakeWhile_imp member

/-- What is still true after a blank has been dropped at either end is true of the trimmed text. -/
theorem trimChars_induction {P : List Char → Prop} (here : P l)
    (first : ∀ c l, isBlank c = true → P (c :: l) → P l) (last : ∀ c l, isBlank c = true → P (l ++ [c]) → P l) :
    P (trimChars l) := by
  have dropFront {front l : List Char} (blank : ∀ c ∈ front, isBlank c = true) (there : P (front ++ l)) : P l := by
    induction front with
    | nil => exact there
    | cons c front ih =>
      rw [List.forall_mem_cons] at blank
      exact ih blank.2 (first c _ blank.1 there)
  have dropBack {back l : List Char} (blank : ∀ c ∈ back, isBlank c = true) (there : P (l ++ back)) : P l := by
    induction back generalizing l with
    | nil => exact List.append_nil l ▸ there
    | cons c back ih =>
      rw [List.forall_mem_cons] at blank
      rw [← List.singleton_append, ← List.append_assoc] at there
      exact last c l blank.1 (ih blank.2 there)
  obtain ⟨front, back, text, before, behind⟩ := exists_padding l
  exact dropFront before (dropBack behind (text ▸ here))

/-- A blank text consists of blanks. -/
theorem isBlank_of_isBlankText {s : String} (blank : isBlankText s = true) : ∀ c ∈ s.toList, isBlank c = true := by
  obtain ⟨front, back, text, before, behind⟩ := exists_padding s.toList
  have nothing : trimChars s.toList = [] := by simpa [isBlankText] using blank
  rw [text, nothing, List.append_nil]
  exact List.forall_mem_append.mpr ⟨before, behind⟩

theorem isBlank_of_head? (first : (trimChars l).head? = some c) : isBlank c = false := by
  have kept := List.head?_dropWhile_not isBlank (dropTrailing isBlank l)
  rwa [dropWhile_dropTrailing, ← trimChars, first] at kept

theorem isBlank_of_getLast? (last : (trimChars l).getLast? = some c) : isBlank c = false :=
  of_getLast?_dropTrailing last

theorem dropTrailing_of_forall (visible : ∀ c ∈ l, isBlank c = false) : dropTrailing isBlank l = l :=
  List.rdropWhile_eq_self_iff.mpr fun there => by simp [visible _ (List.getLast_mem there)]

/-- A text without blanks is left alone. -/
theorem trimChars_of_forall (visible : ∀ c ∈ l, isBlank c = false) : trimChars l = l := by
  have first : l.dropWhile isBlank = l :=
    List.dropWhile_eq_self_iff.mpr fun there => by simp [visible _ (List.getElem_mem there)]
  rw [trimChars, first, dropTrailing_of_forall visible]

theorem dropTrailing_ne_nil (there : trimChars l ≠ []) : dropTrailing isBlank l ≠ [] := by
  intro nothing
  rw [← trimChars_dropTrailing, nothing] at there
  exact there rfl

/-- Behind a text that does not begin with a blank, only the end of a text is trimmed. -/
theorem trimChars_append (first : isBlank c = false) (l : List Char) (there : trimChars l' ≠ []) :
    trimChars (c :: l ++ l') = c :: l ++ dropTrailing isBlank l' := by
  rw [trimChars, List.cons_append, List.dropWhile_cons_of_neg (by simp [first]), ← List.cons_append,
    dropTrailing_append (dropTrailing_ne_nil there)]

theorem nonBlank?_of_ne_nil (there : trimChars l ≠ []) : nonBlank? l = some (trimChars l) := by
  rw [nonBlank?, if_neg (by simpa using there)]

theorem ne_nil_of_nonBlank? (trimmed : nonBlank? l = some l') : l' ≠ [] := by
  rw [nonBlank?] at trimmed
  split at trimmed
  · cases trimmed
  · rename_i there
    cases trimmed
    simpa using there

theorem infix_of_nonBlank? (trimmed : nonBlank? l = some l') : l' <:+: l := by
  rw [nonBlank?] at trimmed
  split at trimmed
  · cases trimmed
  · cases trimmed
    obtain ⟨front, back, text, -⟩ := exists_padding l
    exact ⟨front, back, text.symm⟩

/-- Whether a text is more than blanks, and what it is when it is trimmed, is the same after trimming its end. -/
theorem nonBlank?_dropTrailing (l : List Char) : nonBlank? (dropTrailing isBlank l) = nonBlank? l := by
  rw [nonBlank?, nonBlank?, trimChars_dropTrailing]

theorem trimChars_ne_nil {s : String} (there : isBlankText s = false) : trimChars s.toList ≠ [] := by
  simpa [isBlankText] using there

end DeviceTwin.Text
