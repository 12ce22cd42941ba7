import DeviceTwin.Json.Printer
import DeviceTwin.Json.Token
import Mathlib.Tactic.SplitIfs

/-!
Texts of documents. Whatever its characters are, a text that is written is read back as itself (`readText_write`).
-/
namespace DeviceTwin.Json
open DeviceTwin.Text

variable {c : Char} {l cs rest : List Char} {fuel : Nat}

/-- The escape of a control character by its code point. -/
theorem hex4?_padded :
    ∀ n < 0x20, ∃ a b c d, padded 16 4 n = [a, b, c, d] ∧ hex4? a b c d = some n := by
  intro n small
  refine ⟨digitChar (n / 16 / 16 / 16 % 16), digitChar (n / 16 / 16 % 16), digitChar (n / 16 % 16), digitChar (n % 16),
    rfl, ?_⟩
  revert n
  decide

theorem readCodePoint_padded (control : c.toNat < 0x20) (rest : List Char) :
    readCodePoint (padded 16 4 c.toNat ++ rest) = .ok (c, rest) := by
  obtain ⟨x, y, z, w, digits, number⟩ := hex4?_padded c.toNat control
  have low : isLowSurrogate c.toNat = false := by
    simp only [isLowSurrogate, Bool.and_eq_false_imp, decide_eq_true_eq]
    omega
  have high : isHighSurrogate c.toNat = false := by
    simp only [isHighSurrogate, Bool.and_eq_false_imp, decide_eq_true_eq]
    omega
  simp [digits, readCodePoint, number, low, high]

theorem readTextIn_escape (escape : readEscape cs = .ok (c, rest)) (fuel : Nat) :
    readTextIn (fuel + 1) ('\\' :: cs) = (readTextIn fuel rest).map fun (l, rest) => (c :: l, rest) := by
  simp only [readTextIn, escape, bind, Except.bind, pure, Except.pure]
  cases readTextIn fuel rest <;> rfl

/-- Every character is read back from its escape, in one step. -/
theorem readTextIn_escapeChar (fuel : Nat) (c : Char) (cs : List Char) :
    readTextIn (fuel + 1) (escapeChar c ++ cs) = (readTextIn fuel cs).map fun (l, rest) => (c :: l, rest) := by
  unfold escapeChar
  split
  · exact readTextIn_escape (by subst_vars; rfl) fuel
  split
  · exact readTextIn_escape (by subst_vars; rfl) fuel
  split
  · rename_i code
    exact readTextIn_escape (by rw [← Char.ofNat_toNat c, code]; rfl) fuel
  split
  · rename_i code
    exact readTextIn_escape (by rw [← Char.ofNat_toNat c, code]; rfl) fuel
  split
  · exact readTextIn_escape (by subst_vars; rfl) fuel
  split
  · exact readTextIn_escape (by subst_vars; rfl) fuel
  split
  · exact readTextIn_escape (by subst_vars; rfl) fuel
  split
  · rename_i control
    have escape : readEscape ('u' :: (padded 16 4 c.toNat ++ cs)) = .ok (c, cs) := readCodePoint_padded control cs
    exact readTextIn_escape escape fuel
  · rename_i quote slash _ _ _ _ _ printable
    simp only [List.cons_append, List.nil_append, readTextIn, if_neg quote, if_neg slash, if_neg printable, bind,
      Except.bind, pure, Except.pure]
    cases readTextIn fuel cs <;> rfl

theorem escapeChar_ne_nil (c : Char) : escapeChar c ≠ [] := by
  unfold escapeChar
  split_ifs <;> simp

theorem length_le_escaped (l : List Char) : l.length ≤ (l.flatMap escapeChar).length := by
  induction l with
  | nil => exact Nat.le_refl 0
  | cons c l ih =>
    have one := List.length_pos_iff.mpr (escapeChar_ne_nil c)
    rw [List.flatMap_cons, List.length_append, List.length_cons]
    omega

theorem readTextIn_escaped (enough : l.length < fuel) (rest : List Char) :
    readTextIn fuel (l.flatMap escapeChar ++ '"' :: rest) = .ok (l, rest) := by
  induction l generalizing fuel with
  | nil =>
    cases fuel with
    | zero => cases enough
    | succ fuel => rfl
  | cons c l ih =>
    cases fuel with
    | zero => cases enough
    | succ fuel =>
      rw [List.flatMap_cons, List.append_assoc, readTextIn_escapeChar, ih (Nat.lt_of_succ_lt_succ enough)]
      rfl

/-- A text is read back as itself. -/
theorem readText_write (l rest : List Char) :
    readText (l.flatMap escapeChar ++ '"' :: rest) = .ok (String.ofList l, rest) := by
  have enough : l.length < (l.flatMap escapeChar ++ '"' :: rest).length + 1 := by
    have shorter := length_le_escaped l
    rw [List.length_append]
    omega
  simp only [readText, readTextIn_escaped enough, bind, Except.bind, pure, Except.pure]

end DeviceTwin.Json
