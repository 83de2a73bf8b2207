import CHeader.Text

/-!
# The order of texts and of their bytes

Texts are compared character by character.  Comparing their UTF-8 bytes gives the same order: where
two texts first differ, the encodings of the two characters first differ in the same direction.
-/

namespace CHeader
namespace Text

/-- The UTF-8 bytes of a text. -/
def bytes (text : Text) : List UInt8 :=
  (String.ofList text).toUTF8.data.toList

theorem bytes_eq_flatMap (text : Text) : bytes text = text.flatMap String.utf8EncodeChar := by
  rw [bytes, String.toUTF8, String.toByteArray_ofList, List.utf8Encode,
    List.toList_data_toByteArray]

theorem bytes_cons (c : Char) (text : Text) :
    bytes (c :: text) = String.utf8EncodeChar c ++ bytes text := by
  rw [bytes_eq_flatMap, bytes_eq_flatMap, List.flatMap_cons]

/-! ## Characters -/

theorem ofNat_lt_ofNat_iff (n m : Nat) : UInt8.ofNat n < UInt8.ofNat m ↔ n % 256 < m % 256 := by
  rw [UInt8.lt_iff_toNat_lt, UInt8.toNat_ofNat', UInt8.toNat_ofNat']

theorem ofNat_eq_ofNat_iff (n m : Nat) : UInt8.ofNat n = UInt8.ofNat m ↔ n % 256 = m % 256 := by
  rw [← UInt8.toNat_inj, UInt8.toNat_ofNat', UInt8.toNat_ofNat']

/-- The bytes of a lesser character are less, whatever follows. -/
theorem utf8EncodeChar_append_lt {c d : Char} (less : c < d) (front back : List UInt8) :
    String.utf8EncodeChar c ++ front < String.utf8EncodeChar d ++ back := by
  have codes : c.val.toNat < d.val.toNat := less
  have bound : d.val.toNat < 0x110000 := by
    rcases d.valid with low | ⟨-, high⟩
    · exact Nat.lt_trans low (by decide)
    · exact high
  have second (n : Nat) : n / 4096 = n / 64 / 64 := (Nat.div_div_eq_div_mul n 64 64).symm
  have third (n : Nat) : n / 262144 = n / 64 / 64 / 64 := by
    rw [← second, Nat.div_div_eq_div_mul]
  -- The more bytes, the greater the first one; with as many, the digits to the base 64 decide.
  fun_cases String.utf8EncodeChar c <;> fun_cases String.utf8EncodeChar d <;>
    simp only [List.cons_append, List.cons_lt_cons_iff, ofNat_lt_ofNat_iff, ofNat_eq_ofNat_iff,
      second, third] <;>
    omega

/-! ## Texts -/

theorem bytes_lt_bytes_of_lt {left right : Text} (less : left < right) :
    bytes left < bytes right := by
  induction less with
  | @nil c text =>
      have nonempty : bytes (c :: text) ≠ [] := by simp [bytes_cons]
      obtain ⟨byte, later, split⟩ := List.exists_cons_of_ne_nil nonempty
      rw [split]
      exact List.nil_lt_cons byte later
  | @rel c front d back smaller =>
      rw [bytes_cons, bytes_cons]
      exact utf8EncodeChar_append_lt smaller _ _
  | @cons c front back _ ih =>
      rw [bytes_cons, bytes_cons]
      exact List.append_left_lt ih

/-- Texts are ordered as their bytes are. -/
theorem bytes_lt_bytes_iff {left right : Text} : bytes left < bytes right ↔ left < right := by
  refine ⟨fun less => ?_, bytes_lt_bytes_of_lt⟩
  rcases Std.lt_trichotomy left right with smaller | rfl | greater
  · exact smaller
  · exact absurd less (List.lt_irrefl _)
  · exact absurd less (List.lt_asymm (bytes_lt_bytes_of_lt greater))

end Text
end CHeader
