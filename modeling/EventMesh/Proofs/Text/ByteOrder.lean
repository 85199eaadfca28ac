import Mathlib.Data.String.Basic
import Mathlib.Order.Basic

/-!
# The order of bytes

Texts are compared character by character, which is how their bytes in UTF-8 compare: the encoding of
a smaller character is smaller at the first byte in which the two differ, whatever follows
(`encode_lt_encode`). Main statement: texts are ordered as their bytes are (`bytes_lt_bytes`).
-/

namespace EventMesh.Text

open String (utf8EncodeChar)

/-- The bytes of a text in UTF-8. -/
def bytes (s : String) : List UInt8 := s.toByteArray.data.toList

theorem bytes_eq (s : String) : bytes s = s.toList.flatMap utf8EncodeChar := by
  rw [bytes, ← String.utf8Encode_toList, List.utf8Encode]
  simp

/-- No character takes less than a byte. -/
theorem length_le_utf8ByteSize (s : String) : s.toList.length ≤ s.utf8ByteSize := by
  have size : (bytes s).length = s.utf8ByteSize := rfl
  rw [← size, bytes_eq]
  induction s.toList with
  | nil => exact Nat.le_refl _
  | cons c cs ih =>
    have one := c.utf8Size_pos
    rw [List.flatMap_cons, List.length_append, String.length_utf8EncodeChar, List.length_cons]
    omega

theorem ofNat_cons_lt_cons {m n : Nat} (hm : m < 256) (hn : n < 256) {xs ys : List UInt8} :
    UInt8.ofNat m :: xs < UInt8.ofNat n :: ys ↔ m < n ∨ m = n ∧ xs < ys := by
  rw [List.cons_lt_cons_iff, UInt8.lt_iff_toNat_lt, ← UInt8.toNat_inj,
    UInt8.toNat_ofNat_of_lt' hm, UInt8.toNat_ofNat_of_lt' hn]

/-- Numbers in base 64 compare by their last digit only if all others are the same. -/
theorem last_digit_lt {m n : Nat} (h : m < n) :
    m / 64 < n / 64 ∨ m / 64 = n / 64 ∧ m % 64 < n % 64 := by
  omega

/-- The encodings of two characters compare as the characters, whatever follows them. -/
theorem encode_lt_encode {c d : Char} (h : c < d) (xs ys : List UInt8) :
    utf8EncodeChar c ++ xs < utf8EncodeChar d ++ ys := by
  have less : c.val.toNat < d.val.toNat := h
  have bound : d.val.toNat < 0x110000 := by
    have valid := d.valid
    simp only [UInt32.isValidChar, Nat.isValidChar] at valid
    omega
  unfold utf8EncodeChar
  generalize c.val.toNat = m at less
  generalize d.val.toNat = n at less bound
  have third : m / 64 < n / 64 → m / 4096 < n / 4096 ∨
      m / 4096 = n / 4096 ∧ m / 64 % 64 < n / 64 % 64 := by
    have digits := @last_digit_lt (m / 64) (n / 64)
    rwa [Nat.div_div_eq_div_mul, Nat.div_div_eq_div_mul] at digits
  have second : m / 4096 < n / 4096 → m / 262144 < n / 262144 ∨
      m / 262144 = n / 262144 ∧ m / 4096 % 64 < n / 4096 % 64 := by
    have digits := @last_digit_lt (m / 4096) (n / 4096)
    rwa [Nat.div_div_eq_div_mul, Nat.div_div_eq_div_mul] at digits
  have fourth := last_digit_lt less
  have first_m : m / 262144 % 8 = m / 262144 := Nat.mod_eq_of_lt (by omega)
  have first_n : n / 262144 % 8 = n / 262144 := Nat.mod_eq_of_lt (by omega)
  dsimp only
  -- Of the lengths of the two encodings the second is not the smaller one.
  split_ifs
  all_goals
    simp (disch := omega) only [List.cons_append, List.nil_append, ofNat_cons_lt_cons]
    omega

theorem flatMap_encode_lt {cs ds : List Char} (h : cs < ds) :
    cs.flatMap utf8EncodeChar < ds.flatMap utf8EncodeChar := by
  induction List.lex_lt.mpr h with
  | nil =>
    rename_i d ds
    rw [List.flatMap_cons, List.flatMap_nil]
    cases encoded : utf8EncodeChar d with
    | nil => exact absurd encoded String.utf8EncodeChar_ne_nil
    | cons b bs => exact List.nil_lt_cons b _
  | rel less => exact encode_lt_encode less _ _
  | cons rest ih => exact List.append_left_lt (ih (List.lex_lt.mp rest))

/-- **Texts are ordered as their bytes are.** -/
theorem bytes_lt_bytes {s t : String} : bytes s < bytes t ↔ s < t := by
  have forward : ∀ {s t : String}, s < t → bytes s < bytes t := by
    intro s t less
    rw [bytes_eq, bytes_eq]
    exact flatMap_encode_lt (String.lt_iff_toList_lt.mp less)
  refine ⟨fun less => ?_, forward⟩
  rcases lt_trichotomy s t with before | rfl | after
  · exact before
  · exact absurd less (List.lt_irrefl _)
  · exact absurd less (List.lt_asymm (forward after))

/-- A letter beyond the first hundred and twenty-eight comes after all of those. -/
example : bytes "z" < bytes "é" ∧ bytes "é" < bytes "€" ∧ bytes "€" < bytes "😀" := by decide

end EventMesh.Text
