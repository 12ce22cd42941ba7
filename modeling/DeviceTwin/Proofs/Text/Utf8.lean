import DeviceTwin.Text.Utf8
import Mathlib.Tactic.SplitIfs

/-!
UTF-8 back and forth. The bytes of a character are read as that character, whatever follows them, and what is read as a
character are the bytes of it. So strict reading accepts exactly the bytes of texts (`ofUtf8_eq_ok`), and no two texts
have the same bytes.
-/
namespace DeviceTwin.Text

variable {n acc read lo hi count : Nat} {b : UInt8} {rest bytes : List UInt8} {c : Char}

/-! ### Single bytes -/

theorem toNat_toUInt8 (small : n < 0x100) : n.toUInt8.toNat = n := by
  rw [Nat.toUInt8_eq, UInt8.toNat_ofNat', Nat.mod_eq_of_lt small]

theorem toUInt8_of_toNat (same : b.toNat = n) : n.toUInt8 = b := by
  rw [← same]
  exact UInt8.ofNat_toNat

/-- A byte that continues a character adds its six bits. -/
theorem utf8Continue_cons {m : Nat} (low : lo ≤ 0x80 + m) (high : 0x80 + m ≤ hi) (small : m < 0x40) :
    utf8Continue acc read lo hi (count + 1) ((0x80 + m).toUInt8 :: rest) =
      utf8Continue (acc * 0x40 + m) (read + 1) 0x80 0xBF count rest := by
  have value : (0x80 + m).toUInt8.toNat = 0x80 + m := toNat_toUInt8 (by omega)
  rw [utf8Continue, value, if_pos ⟨low, high⟩]
  congr 2
  omega

theorem of_utf8Continue (reading : utf8Continue acc read lo hi (count + 1) bytes = (.char c, rest)) :
    ∃ b more, bytes = b :: more ∧ lo ≤ b.toNat ∧ b.toNat ≤ hi ∧
      utf8Continue (acc * 0x40 + b.toNat % 0x40) (read + 1) 0x80 0xBF count more = (.char c, rest) := by
  cases bytes with
  | nil => cases reading
  | cons b more =>
    rw [utf8Continue] at reading
    split at reading
    · rename_i range
      exact ⟨b, more, rfl, range.1, range.2, reading⟩
    · cases reading

/-! ### Leading bytes -/

theorem utf8Lead?_two (low : 0x80 ≤ n) (high : n < 0x800) :
    utf8Lead? (0xC0 + n / 0x40) = some (n / 0x40, 1, 0x80, 0xBF) := by
  rw [utf8Lead?, if_pos (by omega), Nat.add_sub_cancel_left]

/-- What the first byte of three announces of the second one holds for characters. -/
theorem utf8Lead?_three (low : 0x800 ≤ n) (high : n < 0x10000) (valid : n < 0xD800 ∨ 0xDFFF < n) :
    ∃ lo hi, utf8Lead? (0xE0 + n / 0x1000) = some (n / 0x1000, 2, lo, hi) ∧
      lo ≤ 0x80 + n / 0x40 % 0x40 ∧ 0x80 + n / 0x40 % 0x40 ≤ hi := by
  rw [utf8Lead?, if_neg (by omega)]
  split
  · exact ⟨0xA0, 0xBF, by simp; omega, by omega, by omega⟩
  split
  · exact ⟨0x80, 0x9F, by simp; omega, by omega, by omega⟩
  · exact ⟨0x80, 0xBF, by rw [if_pos (by omega), Nat.add_sub_cancel_left], by omega, by omega⟩

theorem utf8Lead?_four (low : 0x10000 ≤ n) (high : n < 0x110000) :
    ∃ lo hi, utf8Lead? (0xF0 + n / 0x40000) = some (n / 0x40000, 3, lo, hi) ∧
      lo ≤ 0x80 + n / 0x1000 % 0x40 ∧ 0x80 + n / 0x1000 % 0x40 ≤ hi := by
  rw [utf8Lead?, if_neg (by omega), if_neg (by omega), if_neg (by omega), if_neg (by omega)]
  split
  · exact ⟨0x90, 0xBF, by simp; omega, by omega, by omega⟩
  split
  · exact ⟨0x80, 0xBF, by rw [Nat.add_sub_cancel_left], by omega, by omega⟩
  · exact ⟨0x80, 0x8F, by rw [if_pos (by omega)]; simp; omega, by omega, by omega⟩

/-! ### Characters -/

/-- The bytes of a character are read as that character. -/
theorem utf8Piece_utf8 (c : Char) (rest : List UInt8) :
    ∃ b more, utf8 c = b :: more ∧ utf8Piece b (more ++ rest) = (.char c, rest) := by
  have valid : c.toNat < 0xD800 ∨ 0xDFFF < c.toNat ∧ c.toNat < 0x110000 := c.valid
  have back : Char.ofNat c.toNat = c := c.ofNat_toNat
  rw [utf8]
  generalize c.toNat = n at *
  split
  · rename_i ascii
    refine ⟨_, _, rfl, ?_⟩
    rw [utf8Piece, toNat_toUInt8 (by omega), if_pos ascii, back]
    rfl
  split
  · rename_i low high
    refine ⟨_, _, rfl, ?_⟩
    rw [utf8Piece, toNat_toUInt8 (by omega), if_neg (by omega), utf8Lead?_two (by omega) high]
    simp only [List.cons_append, List.nil_append]
    rw [utf8Continue_cons (by omega) (by omega) (by omega), utf8Continue, show n / 0x40 * 0x40 + n % 0x40 = n by omega,
      back]
  split
  · rename_i low high
    obtain ⟨lo, hi, lead, least, greatest⟩ := utf8Lead?_three (by omega) high (valid.imp_right And.left)
    refine ⟨_, _, rfl, ?_⟩
    rw [utf8Piece, toNat_toUInt8 (by omega), if_neg (by omega), lead]
    simp only [List.cons_append, List.nil_append]
    rw [utf8Continue_cons least greatest (by omega), utf8Continue_cons (by omega) (by omega) (by omega), utf8Continue,
      show (n / 0x1000 * 0x40 + n / 0x40 % 0x40) * 0x40 + n % 0x40 = n by omega, back]
  · rename_i low
    obtain ⟨lo, hi, lead, least, greatest⟩ := utf8Lead?_four (n := n) (by omega) (by omega)
    refine ⟨_, _, rfl, ?_⟩
    rw [utf8Piece, toNat_toUInt8 (by omega), if_neg (by omega), lead]
    simp only [List.cons_append, List.nil_append]
    rw [utf8Continue_cons least greatest (by omega), utf8Continue_cons (by omega) (by omega) (by omega),
      utf8Continue_cons (by omega) (by omega) (by omega), utf8Continue,
      show ((n / 0x40000 * 0x40 + n / 0x1000 % 0x40) * 0x40 + n / 0x40 % 0x40) * 0x40 + n % 0x40 = n by omega, back]

theorem toNat_ofNat (valid : n.isValidChar) : (Char.ofNat n).toNat = n := by
  rw [Char.ofNat, dif_pos valid]
  rfl

/-- The kinds of bytes that announce others. -/
theorem of_utf8Lead? {payload : Nat} (lead : utf8Lead? n = some (payload, count, lo, hi)) :
    (count = 1 ∧ n = 0xC0 + payload ∧ 2 ≤ payload ∧ payload < 0x20 ∧ 0x80 ≤ lo ∧ hi ≤ 0xBF) ∨
    (count = 2 ∧ n = 0xE0 + payload ∧ payload < 0x10 ∧ 0x80 ≤ lo ∧ hi ≤ 0xBF ∧ (payload = 0 → 0xA0 ≤ lo) ∧
      (payload = 0xD → hi ≤ 0x9F)) ∨
    (count = 3 ∧ n = 0xF0 + payload ∧ payload ≤ 4 ∧ 0x80 ≤ lo ∧ hi ≤ 0xBF ∧ (payload = 0 → 0x90 ≤ lo) ∧
      (payload = 4 → hi ≤ 0x8F)) := by
  unfold utf8Lead? at lead
  split_ifs at lead
  all_goals
    simp only [Option.some.injEq, Prod.mk.injEq] at lead
    omega

theorem utf8_two (low : 0x80 ≤ n) (high : n < 0x800) :
    utf8 (Char.ofNat n) = [(0xC0 + n / 0x40).toUInt8, (0x80 + n % 0x40).toUInt8] := by
  simp only [utf8, toNat_ofNat (n := n) (.inl (by omega))]
  rw [if_neg (by omega), if_pos high]

theorem utf8_three (low : 0x800 ≤ n) (high : n < 0x10000) (valid : n < 0xD800 ∨ 0xDFFF < n) :
    utf8 (Char.ofNat n) =
      [(0xE0 + n / 0x1000).toUInt8, (0x80 + n / 0x40 % 0x40).toUInt8, (0x80 + n % 0x40).toUInt8] := by
  simp only [utf8, toNat_ofNat (n := n) (valid.imp_right fun above => ⟨above, by omega⟩)]
  rw [if_neg (by omega), if_neg (by omega), if_pos high]

theorem utf8_four (low : 0x10000 ≤ n) (high : n < 0x110000) :
    utf8 (Char.ofNat n) =
      [(0xF0 + n / 0x40000).toUInt8, (0x80 + n / 0x1000 % 0x40).toUInt8, (0x80 + n / 0x40 % 0x40).toUInt8,
        (0x80 + n % 0x40).toUInt8] := by
  simp only [utf8, toNat_ofNat (n := n) (.inr ⟨by omega, high⟩)]
  rw [if_neg (by omega), if_neg (by omega), if_neg (by omega)]

/-- What is read as a character are the bytes of it. -/
theorem of_utf8Piece (reading : utf8Piece b bytes = (.char c, rest)) : b :: bytes = utf8 c ++ rest := by
  rw [utf8Piece] at reading
  split at reading
  · rename_i ascii
    cases reading
    simp only [utf8, toNat_ofNat (n := b.toNat) (.inl (by omega)), if_pos ascii]
    rw [toUInt8_of_toNat rfl]
    rfl
  split at reading
  · rename_i payload count lo hi lead
    rcases of_utf8Lead? lead with ⟨rfl, first, two⟩ | ⟨rfl, first, three⟩ | ⟨rfl, first, four⟩
    · obtain ⟨b₁, more, rfl, low₁, high₁, reading⟩ := of_utf8Continue reading
      cases reading
      rw [utf8_two (by omega) (by omega)]
      rw [toUInt8_of_toNat (b := b) (by omega), toUInt8_of_toNat (b := b₁) (by omega)]
      rfl
    · obtain ⟨b₁, more, rfl, low₁, high₁, reading⟩ := of_utf8Continue reading
      obtain ⟨b₂, more, rfl, low₂, high₂, reading⟩ := of_utf8Continue reading
      cases reading
      rw [utf8_three (by omega) (by omega) (by omega)]
      rw [toUInt8_of_toNat (b := b) (by omega), toUInt8_of_toNat (b := b₁) (by omega),
        toUInt8_of_toNat (b := b₂) (by omega)]
      rfl
    · obtain ⟨b₁, more, rfl, low₁, high₁, reading⟩ := of_utf8Continue reading
      obtain ⟨b₂, more, rfl, low₂, high₂, reading⟩ := of_utf8Continue reading
      obtain ⟨b₃, more, rfl, low₃, high₃, reading⟩ := of_utf8Continue reading
      cases reading
      rw [utf8_four (by omega) (by omega)]
      rw [toUInt8_of_toNat (b := b) (by omega), toUInt8_of_toNat (b := b₁) (by omega),
        toUInt8_of_toNat (b := b₂) (by omega), toUInt8_of_toNat (b := b₃) (by omega)]
      rfl
  · cases reading

/-! ### Texts -/

theorem utf8_ne_nil (c : Char) : utf8 c ≠ [] := by
  obtain ⟨b, more, bytes, _⟩ := utf8Piece_utf8 c []
  simp [bytes]

/-- The pieces of the bytes of a text are its characters. -/
theorem utf8PiecesIn_flatMap {fuel : Nat} (l : List Char) (enough : (l.flatMap utf8).length ≤ fuel) :
    utf8PiecesIn fuel (l.flatMap utf8) = l.map .char := by
  induction l generalizing fuel with
  | nil => cases fuel <;> rfl
  | cons c l ih =>
    obtain ⟨b, more, bytes, piece⟩ := utf8Piece_utf8 c (l.flatMap utf8)
    rw [List.flatMap_cons, bytes, List.cons_append] at enough ⊢
    cases fuel with
    | zero => cases enough
    | succ fuel =>
      rw [List.length_cons, List.length_append] at enough
      rw [utf8PiecesIn, piece, ih (by omega)]
      rfl

theorem charactersOf_map (start : Nat) (l : List Char) : charactersOf start (l.map .char) = .ok l := by
  induction l generalizing start with
  | nil => rfl
  | cons c l ih => simp [charactersOf, ih]

/-- Bytes whose pieces are characters are the bytes of those characters. -/
theorem of_charactersOf {fuel start : Nat} {l : List Char} (enough : bytes.length ≤ fuel)
    (reading : charactersOf start (utf8PiecesIn fuel bytes) = .ok l) : bytes = l.flatMap utf8 := by
  induction fuel generalizing bytes start l with
  | zero =>
    cases bytes with
    | nil =>
      cases reading
      rfl
    | cons => cases enough
  | succ fuel ih =>
    cases bytes with
    | nil =>
      cases reading
      rfl
    | cons b more =>
      rw [List.length_cons] at enough
      cases piece : utf8Piece b more with
      | mk first rest =>
        rw [utf8PiecesIn, piece] at reading
        cases first with
        | char c =>
          rw [charactersOf] at reading
          split at reading
          · rename_i l' characters
            cases reading
            have front := of_utf8Piece piece
            have shorter : (b :: more).length = (utf8 c).length + rest.length := by rw [front, List.length_append]
            have some_ := List.length_pos_iff.mpr (utf8_ne_nil c)
            rw [List.length_cons] at shorter
            have later : rest = l'.flatMap utf8 := ih (by omega) characters
            rw [front, List.flatMap_cons, later]
          · cases reading
        | malformed | cut => cases reading

/-- Strict reading accepts the bytes of texts and nothing else. -/
theorem ofUtf8_eq_ok {s : String} : ofUtf8 bytes = .ok s ↔ bytes = utf8Bytes s := by
  constructor
  · intro reading
    rw [ofUtf8] at reading
    split at reading
    · rename_i l characters
      cases reading
      rw [utf8Bytes, String.toList_ofList]
      exact of_charactersOf (Nat.le_refl _) characters
    · cases reading
  · rintro rfl
    rw [ofUtf8, utf8Pieces, utf8Bytes, utf8PiecesIn_flatMap s.toList (Nat.le_refl _), charactersOf_map]
    simp

theorem utf8Bytes_injective : Function.Injective utf8Bytes := by
  intro s t same
  have reading := ofUtf8_eq_ok.mpr same
  rw [ofUtf8_eq_ok.mpr rfl] at reading
  cases reading
  rfl

theorem flatMap_utf8_injective {l l' : List Char} (same : l.flatMap utf8 = l'.flatMap utf8) : l = l' := by
  have texts : utf8Bytes (String.ofList l) = utf8Bytes (String.ofList l') := by
    rwa [utf8Bytes, utf8Bytes, String.toList_ofList, String.toList_ofList]
  exact String.ofList_injective (utf8Bytes_injective texts)

end DeviceTwin.Text
