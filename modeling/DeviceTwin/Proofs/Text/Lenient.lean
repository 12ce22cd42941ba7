import DeviceTwin.Proofs.Text.Utf8

/-!
Lenient reading of UTF-8. It gives the text of which the bytes are (`ofUtf8Lossy_flatMap`), and a character for every
piece of other bytes. How many pieces there are is bounded by the bytes: one more byte in front makes at most one more
piece (`length_utf8Pieces_cons_le`), whatever it is made a part of.
-/
namespace DeviceTwin.Text

variable {acc read lo hi count fuel fuel' : Nat} {b : UInt8} {front rest bytes : List UInt8} {c : Char}

/-! ### Pieces one after the other -/

/-- A byte that only stands behind others in a character. -/
def Continues (b : UInt8) : Prop := 0x80 ≤ b.toNat ∧ b.toNat ≤ 0xBF

theorem utf8Continue_split (low : 0x80 ≤ lo) (high : hi ≤ 0xBF) :
    ∃ front, bytes = front ++ (utf8Continue acc read lo hi count bytes).2 ∧ ∀ b ∈ front, Continues b := by
  induction count generalizing acc read lo hi bytes with
  | zero => exact ⟨[], rfl, by simp⟩
  | succ count ih =>
    cases bytes with
    | nil => exact ⟨[], rfl, by simp⟩
    | cons b rest =>
      rw [utf8Continue]
      split
      · rename_i range
        obtain ⟨front, split, continues⟩ : ∃ front, rest = front ++ (utf8Continue (acc * 0x40 + b.toNat % 0x40)
            (read + 1) 0x80 0xBF count rest).2 ∧ ∀ b ∈ front, Continues b :=
          ih (Nat.le_refl _) (Nat.le_refl _)
        refine ⟨b :: front, by rw [List.cons_append, ← split], List.forall_mem_cons.mpr ⟨?_, continues⟩⟩
        exact ⟨Nat.le_trans low range.1, Nat.le_trans range.2 high⟩
      · exact ⟨[], rfl, by simp⟩

/-- What a piece takes after its first byte are bytes that continue a character. -/
theorem utf8Piece_split (b : UInt8) (rest : List UInt8) :
    ∃ front, rest = front ++ (utf8Piece b rest).2 ∧ ∀ x ∈ front, Continues x := by
  rw [utf8Piece]
  split
  · exact ⟨[], rfl, by simp⟩
  split
  · rename_i payload count lo hi lead
    have range : 0x80 ≤ lo ∧ hi ≤ 0xBF := by
      rcases of_utf8Lead? lead with two | three | four <;> omega
    exact utf8Continue_split range.1 range.2
  · exact ⟨[], rfl, by simp⟩

theorem length_utf8Piece_le (b : UInt8) (rest : List UInt8) : (utf8Piece b rest).2.length ≤ rest.length := by
  obtain ⟨front, split, _⟩ := utf8Piece_split b rest
  have total := congrArg List.length split
  rw [List.length_append] at total
  omega

/-- As many steps as there are bytes are enough. -/
theorem utf8PiecesIn_fuel (enough : bytes.length ≤ fuel) (enough' : bytes.length ≤ fuel') :
    utf8PiecesIn fuel bytes = utf8PiecesIn fuel' bytes := by
  induction fuel generalizing fuel' bytes with
  | zero =>
    rw [List.length_eq_zero_iff.mp (Nat.le_zero.mp enough)]
    cases fuel' <;> rfl
  | succ fuel ih =>
    cases bytes with
    | nil => cases fuel' <;> rfl
    | cons b rest =>
      cases fuel' with
      | zero => cases enough'
      | succ fuel' =>
        have shorter := length_utf8Piece_le b rest
        rw [List.length_cons] at enough enough'
        have same : utf8PiecesIn fuel (utf8Piece b rest).2 = utf8PiecesIn fuel' (utf8Piece b rest).2 :=
          ih (by omega) (by omega)
        rw [utf8PiecesIn, utf8PiecesIn, same]

theorem utf8Pieces_cons (b : UInt8) (rest : List UInt8) :
    utf8Pieces (b :: rest) = (utf8Piece b rest).1 :: utf8Pieces (utf8Piece b rest).2 := by
  rw [utf8Pieces, List.length_cons, utf8PiecesIn, utf8Pieces,
    utf8PiecesIn_fuel (length_utf8Piece_le b rest) (Nat.le_refl _)]

theorem utf8Pieces_utf8 (c : Char) (rest : List UInt8) : utf8Pieces (utf8 c ++ rest) = .char c :: utf8Pieces rest := by
  obtain ⟨b, more, bytes, piece⟩ := utf8Piece_utf8 c rest
  rw [bytes, List.cons_append, utf8Pieces_cons, piece]

/-! ### How many there are -/

/-- A byte that should continue a character is a piece of its own where none has begun. -/
theorem utf8Pieces_continues (continues : Continues b) (rest : List UInt8) :
    utf8Pieces (b :: rest) = .malformed 1 :: utf8Pieces rest := by
  obtain ⟨low, high⟩ := continues
  have none_ : utf8Lead? b.toNat = none := by
    unfold utf8Lead?
    split_ifs <;> first | rfl | omega
  rw [utf8Pieces_cons, utf8Piece, if_neg (by omega), none_]

theorem length_utf8Pieces_append (continues : ∀ b ∈ front, Continues b) (rest : List UInt8) :
    (utf8Pieces (front ++ rest)).length = front.length + (utf8Pieces rest).length := by
  induction front with
  | nil => simp
  | cons b front ih =>
    rw [List.forall_mem_cons] at continues
    rw [List.cons_append, utf8Pieces_continues continues.1, List.length_cons, List.length_cons, ih continues.2]
    omega

/-- One more byte in front makes at most one more piece. -/
theorem length_utf8Pieces_cons_le (b : UInt8) (rest : List UInt8) :
    (utf8Pieces (b :: rest)).length ≤ (utf8Pieces rest).length + 1 := by
  obtain ⟨front, split, continues⟩ := utf8Piece_split b rest
  have all := length_utf8Pieces_append continues (utf8Piece b rest).2
  rw [← split] at all
  rw [utf8Pieces_cons, List.length_cons, all]
  omega

/-! ### Texts -/

/-- The bytes of a text are read as the text. -/
theorem ofUtf8Lossy_flatMap (l : List Char) : ofUtf8Lossy (l.flatMap utf8) = String.ofList l := by
  rw [ofUtf8Lossy, utf8Pieces, utf8PiecesIn_flatMap l (Nat.le_refl _), List.map_map]
  exact congrArg String.ofList (List.map_id l)

theorem length_ofUtf8Lossy (bytes : List UInt8) : (ofUtf8Lossy bytes).toList.length = (utf8Pieces bytes).length := by
  rw [ofUtf8Lossy, String.toList_ofList, List.length_map]

end DeviceTwin.Text
