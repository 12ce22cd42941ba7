import DeviceTwin.Proofs.Json.Document

/-!
What readers give. Whatever the text is, a value that is read from it is one that a document can hold, nested no deeper
than the reader allows (`isDocument_of_readValue`).
-/
namespace DeviceTwin.Json
open DeviceTwin.Number DeviceTwin.Text

variable {cs rest : List Char} {n : Number} {j : Json} {negative minus : Bool} {m : Nat} {exponent : Int}
  {depth fuel : Nat}

/-! ### Numbers -/

theorem takeDigits_le (small : m ≤ limit) (cs : List Char) : (takeDigits limit m cs).1 ≤ limit := by
  induction cs generalizing m with
  | nil => exact small
  | cons c cs ih =>
    rw [takeDigits]
    split
    · rename_i more
      exact ih more.2
    · exact small

theorem isDocument_zero (negative : Bool) : (Number.double (zero double negative)).IsDocument :=
  ⟨by simp [zero], range_double⟩

theorem isDocument_ofParts (reading : ofParts negative m exponent cs = .ok (n, rest)) : n.IsDocument := by
  unfold ofParts at reading
  split at reading
  · rename_i x parts
    cases reading
    exact fits_ofDecimalParts parts
  · cases reading

theorem isDocument_wholeNumber (small : m ≤ mantissaLimit) (negative : Bool) :
    (wholeNumber negative m).IsDocument := by
  unfold mantissaLimit at small
  unfold wholeNumber
  split
  · have range : leastInt ≤ (m : Int) ∧ (m : Int) ≤ greatestInt := by
      unfold leastInt greatestInt
      omega
    exact range
  · split
    · rename_i magnitude
      have range : leastInt ≤ (-m : Int) ∧ (-m : Int) ≤ greatestInt := by
        unfold leastInt greatestInt
        omega
      exact range
    · cases rounded : ofInt double m with
      | none => exact isDocument_zero true
      | some x =>
        have fits : x.Fits DeviceTwin.Number.double := fits_ofInt rounded
        exact fits

theorem isDocument_readExponentDigits (reading : readExponentDigits negative m exponent minus cs = .ok (n, rest)) :
    n.IsDocument := by
  unfold readExponentDigits at reading
  split at reading
  · cases reading
  · split at reading
    · simp only at reading
      split at reading
      · split at reading
        · cases reading
        · cases reading
          exact isDocument_zero negative
      · exact isDocument_ofParts reading
    · cases reading

theorem isDocument_readExponent (reading : readExponent negative m exponent cs = .ok (n, rest)) : n.IsDocument := by
  unfold readExponent at reading
  split at reading <;> exact isDocument_readExponentDigits reading

theorem isDocument_readAfterDigits (reading : readAfterDigits negative m exponent cs = .ok (n, rest)) :
    n.IsDocument := by
  unfold readAfterDigits at reading
  split at reading
  · exact isDocument_readExponent reading
  · exact isDocument_readExponent reading
  · exact isDocument_ofParts reading

theorem isDocument_readFraction (reading : readFraction negative m exponent cs = .ok (n, rest)) : n.IsDocument := by
  unfold readFraction at reading
  simp only at reading
  split at reading
  · exact isDocument_readAfterDigits reading
  · split at reading
    · cases reading
    · exact isDocument_readAfterDigits reading

theorem isDocument_readAfterInteger (small : m ≤ mantissaLimit)
    (reading : readAfterInteger negative m cs = .ok (n, rest)) : n.IsDocument := by
  unfold readAfterInteger at reading
  split at reading
  · exact isDocument_readFraction reading
  · exact isDocument_readExponent reading
  · exact isDocument_readExponent reading
  · cases reading
    exact isDocument_wholeNumber small negative

/-- A number that is read is one that a document can hold. -/
theorem isDocument_readNumber (reading : readNumber negative cs = .ok (n, rest)) : n.IsDocument := by
  unfold readNumber at reading
  split at reading
  · cases reading
  · split at reading
    · cases reading
    · exact isDocument_readAfterInteger (Nat.zero_le _) reading
  · split at reading
    · rename_i c _ _ digit
      have small : c.toNat - 48 ≤ mantissaLimit := (digit_le digit).trans (by decide)
      simp only at reading
      split at reading
      · split at reading
        · exact isDocument_readFraction reading
        · exact isDocument_readAfterDigits reading
      · exact isDocument_readAfterInteger (takeDigits_le small _) reading
    · cases reading

/-! ### Values -/

theorem of_readConstant {word : List Char} {value : Json} (reading : readConstant word value cs = .ok (j, rest)) :
    j = value := by
  simp only [readConstant, bind, Except.bind, pure, Except.pure] at reading
  split at reading
  · cases reading
  · cases reading
    rfl

theorem of_readNumberAs {expected : String}
    (reading : readNumberAs expected (fun n => .ok (.num n)) cs = .ok (j, rest)) :
    ∃ n : Number, j = .num n ∧ n.IsDocument := by
  simp only [readNumberAs, bind, Except.bind, pure, Except.pure] at reading
  split at reading
  · split at reading
    · cases reading
    · rename_i number
      cases reading
      exact ⟨_, rfl, isDocument_readNumber number⟩
  · split at reading
    · split at reading
      · cases reading
      · rename_i number
        cases reading
        exact ⟨_, rfl, isDocument_readNumber number⟩
    · cases reading
  · cases reading

section Inner
variable {P : Json → Prop} {read : List Char → Read Json}
  (sound : ∀ {cs rest : List Char} {j : Json}, read cs = .ok (j, rest) → P j)
include sound

/-- What is true of everything that a reader gives is true of all items that it reads. -/
theorem forall_readItems {first : Bool} {items : List Json}
    (reading : readItems read fuel first cs = .ok (items, rest)) : ∀ j ∈ items, P j := by
  induction fuel generalizing first cs items with
  | zero => cases reading
  | succ fuel ih =>
    simp only [readItems, bind, Except.bind, pure, Except.pure] at reading
    split at reading
    · cases reading
    split at reading
    · split at reading
      · cases reading
      rename_i here
      split at reading
      · cases reading
      rename_i others
      cases reading
      exact List.forall_mem_cons.mpr ⟨sound here, ih others⟩
    · cases reading
      simp

theorem forall_readEntries {first : Bool} {fields fields' : Fields} (before : ∀ f ∈ fields, P f.2)
    (reading : readEntries read fuel first fields cs = .ok (fields', rest)) : ∀ f ∈ fields', P f.2 := by
  induction fuel generalizing first cs fields with
  | zero => cases reading
  | succ fuel ih =>
    simp only [readEntries, bind, Except.bind, pure, Except.pure] at reading
    split at reading
    · cases reading
    split at reading
    · split at reading
      · cases reading
      split at reading
      · cases reading
      split at reading
      · cases reading
      rename_i here
      refine ih (fun f member => ?_) reading
      rcases Assoc.mem_insert member with rfl | earlier
      · exact sound here
      · exact before f earlier
    · cases reading
      exact before

end Inner

/-- A value that is read is one that a document can hold, nested as deep as the reader allows. -/
theorem isDocument_of_readValue (reading : readValue depth .document cs = .ok (j, rest)) : IsDocument depth j := by
  induction depth using Nat.strongRecOn generalizing cs rest j with
  | _ depth ih =>
    rw [readValue_document] at reading
    unfold readDocument at reading
    split at reading
    · cases reading
    · rw [of_readConstant reading]
      exact .null depth
    · rw [of_readConstant reading]
      exact .bool depth true
    · rw [of_readConstant reading]
      exact .bool depth false
    · obtain ⟨n, rfl, number⟩ := of_readNumberAs reading
      exact .num depth number
    · simp only [bind, Except.bind, pure, Except.pure] at reading
      split at reading
      · cases reading
      · cases reading
        exact .str depth _
    · cases depth with
      | zero => cases reading
      | succ depth =>
        simp only [readArray, inside, innerOf, bind, Except.bind, pure, Except.pure] at reading
        split at reading
        · cases reading
        · rename_i items
          cases reading
          exact .arr (forall_readItems (ih depth (Nat.lt_succ_self depth)) items)
    · cases depth with
      | zero => cases reading
      | succ depth =>
        simp only [readObject, inside, innerOf, bind, Except.bind, pure, Except.pure] at reading
        split at reading
        · cases reading
        · rename_i fields
          cases reading
          exact .obj (forall_readEntries (ih depth (Nat.lt_succ_self depth)) (by simp) fields)
    · split at reading
      · obtain ⟨n, rfl, number⟩ := of_readNumberAs reading
        exact .num depth number
      · cases reading

/-- What is read from a text is a document. -/
theorem isDocument_of_read {text : String} (reading : Json.read .document text = .ok j) : IsDocument depthLimit j := by
  simp only [Json.read, bind, Except.bind, pure, Except.pure] at reading
  split at reading
  · cases reading
  · rename_i value
    split at reading
    · cases reading
    · cases reading
      exact isDocument_of_readValue value

end DeviceTwin.Json

namespace DeviceTwin.Serializer
open DeviceTwin.Json

/-- What a payload of a value holds is a document. -/
theorem isDocument_of_toWire {s : Serializer} {d : Datum} {j : Json} (wire : s.toWire d = .ok j) :
    IsDocument depthLimit j := by
  simp only [toWire, deserialize, bind, Except.bind] at wire
  split at wire
  · cases wire
  · split at wire
    · rename_i reading
      cases wire
      exact isDocument_of_read reading
    · cases wire

end DeviceTwin.Serializer
