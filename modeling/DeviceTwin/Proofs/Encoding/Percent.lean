import DeviceTwin.Encoding.Percent
import DeviceTwin.Proofs.Text.Utf8

/-!
Percent-encoding back and forth. Whatever characters are encoded, decoding gives the bytes of the text as long as the
percent sign is one of them (`decode_encode`); and an encoded text holds nothing but the characters that are not
encoded, percent signs and digits.
-/
namespace DeviceTwin.Percent
open DeviceTwin.Text

variable {encodes : Char → Bool} {c : Char} {l : List Char} {rest : List UInt8}

/-! ### Decoding -/

theorem decode_cons {p : UInt8} (other : p ≠ 37) (rest : List UInt8) : decode (p :: rest) = p :: decode rest := by
  match rest with
  | [] => rfl
  | [a] => rfl
  | a :: b :: rest => rw [decode, if_neg other]

theorem decode_append {bytes : List UInt8} (other : ∀ p ∈ bytes, p ≠ 37) (rest : List UInt8) :
    decode (bytes ++ rest) = bytes ++ decode rest := by
  induction bytes with
  | nil => rfl
  | cons p bytes ih =>
    rw [List.forall_mem_cons] at other
    rw [List.cons_append, decode_cons other.1, ih other.2, List.cons_append]

theorem toUInt8_ne_percent {n : Nat} (small : n < 0x100) (other : n ≠ 37) : n.toUInt8 ≠ 37 := by
  intro same
  have value := congrArg UInt8.toNat same
  rw [toNat_toUInt8 small] at value
  exact other value

/-- No byte of a character looks like a percent sign, unless the character is one. -/
theorem utf8_ne_percent (other : c ≠ '%') : ∀ p ∈ utf8 c, p ≠ 37 := by
  have range : c.toNat < 0x110000 := by
    rcases c.valid with low | high
    · exact Nat.lt_trans low (by decide)
    · exact high.2
  have code : c.toNat ≠ 37 := fun same => other (by rw [← c.ofNat_toNat, same])
  rw [utf8]
  generalize c.toNat = n at *
  intro p member
  split_ifs at member <;> simp only [List.mem_cons, List.not_mem_nil, or_false] at member
  · rw [member]
    exact toUInt8_ne_percent (by omega) code
  · rcases member with rfl | rfl <;> exact toUInt8_ne_percent (by omega) (by omega)
  · rcases member with rfl | rfl | rfl <;> exact toUInt8_ne_percent (by omega) (by omega)
  · rcases member with rfl | rfl | rfl | rfl <;> exact toUInt8_ne_percent (by omega) (by omega)

/-- A digit is one byte, and is read back. -/
theorem utf8_upperDigitChar {n : Nat} (small : n < 16) : utf8 (upperDigitChar n) = [(upperDigitChar n).toNat.toUInt8] := by
  revert n
  decide +kernel

theorem hexDigit?_upperDigitChar {n : Nat} (small : n < 16) :
    hexDigit? (Char.ofNat (upperDigitChar n).toNat.toUInt8.toNat) = some n := by
  revert n
  decide +kernel

/-- A byte is read back from its digits. -/
theorem decode_encodeByte (b : UInt8) (rest : List UInt8) :
    decode ((encodeByte b).flatMap utf8 ++ rest) = b :: decode rest := by
  have small : b.toNat < 256 := b.toNat_lt
  have high : b.toNat / 16 < 16 := by omega
  have low : b.toNat % 16 < 16 := Nat.mod_lt _ (by decide)
  have bytes : (encodeByte b).flatMap utf8 =
      [37, (upperDigitChar (b.toNat / 16)).toNat.toUInt8, (upperDigitChar (b.toNat % 16)).toNat.toUInt8] := by
    rw [encodeByte, List.flatMap_cons, List.flatMap_cons, List.flatMap_singleton, utf8_upperDigitChar high,
      utf8_upperDigitChar low]
    rfl
  rw [bytes]
  simp only [List.cons_append, List.nil_append, decode, if_true, hexDigit?_upperDigitChar high,
    hexDigit?_upperDigitChar low, Nat.div_add_mod', toUInt8_of_toNat rfl]

/-- So are any bytes. -/
theorem decode_encodeBytes (bytes rest : List UInt8) :
    decode ((bytes.flatMap encodeByte).flatMap utf8 ++ rest) = bytes ++ decode rest := by
  induction bytes with
  | nil => rfl
  | cons b bytes ih =>
    rw [List.flatMap_cons, List.flatMap_append, List.append_assoc, decode_encodeByte, ih, List.cons_append]

theorem decode_encode_append (percent : encodes '%' = true) (l : List Char) (rest : List UInt8) :
    decode ((encode encodes l).flatMap utf8 ++ rest) = l.flatMap utf8 ++ decode rest := by
  induction l with
  | nil => rfl
  | cons c l ih =>
    rw [encode, List.flatMap_cons, ← encode, List.flatMap_append, List.append_assoc, List.flatMap_cons, List.append_assoc,
      ← ih]
    split
    · exact decode_encodeBytes _ _
    · rename_i kept
      have other : c ≠ '%' := by
        rintro rfl
        exact kept percent
      rw [List.flatMap_singleton, decode_append (utf8_ne_percent other)]

/-- Decoding gives the bytes of the text that was encoded. -/
theorem decode_encode (percent : encodes '%' = true) (l : List Char) :
    decode ((encode encodes l).flatMap utf8) = l.flatMap utf8 := by
  have all := decode_encode_append percent l []
  rwa [List.append_nil, decode, List.append_nil] at all

/-! ### Encoded texts -/

theorem of_mem_encodeBytes {bytes : List UInt8} (member : c ∈ bytes.flatMap encodeByte) :
    c = '%' ∨ ∃ n < 16, c = upperDigitChar n := by
  obtain ⟨b, _, digit⟩ := List.mem_flatMap.mp member
  have small := b.toNat_lt
  simp only [encodeByte, List.mem_cons, List.not_mem_nil, or_false] at digit
  rcases digit with percent | high | low
  · exact .inl percent
  · exact .inr ⟨_, by omega, high⟩
  · exact .inr ⟨_, by omega, low⟩

theorem of_mem_encode (member : c ∈ encode encodes l) :
    (c ∈ l ∧ encodes c = false) ∨ c = '%' ∨ ∃ n < 16, c = upperDigitChar n := by
  obtain ⟨d, inside, here⟩ := List.mem_flatMap.mp member
  split at here
  · exact .inr (of_mem_encodeBytes here)
  · rename_i kept
    obtain rfl := List.mem_singleton.mp here
    exact .inl ⟨inside, by simpa using kept⟩

/-- No slash comes from encoding. -/
theorem slash_not_mem_encode (free : '/' ∈ l → encodes '/' = true) : '/' ∉ encode encodes l := by
  intro member
  rcases of_mem_encode member with ⟨inside, kept⟩ | percent | ⟨n, small, digit⟩
  · rw [free inside] at kept
    cases kept
  · cases percent
  · revert n
    decide

end DeviceTwin.Percent
