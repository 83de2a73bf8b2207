import CHeader.ArrayType
import CHeader.Proofs.Decimal
import CHeader.Proofs.Traversal

/-!
# Counts of array types

A declared type with an opening bracket has exactly one element type, one count and one tail.  The
count stands for the constant of that very name or, if there is none, for a literal, and the type
splits exactly if that is an unsigned integer of 64 bits.  Nothing behind the count matters.
-/

namespace CHeader
namespace ArrayType

variable {declaration base count tail : Text} {constants : Constants}

/-- A declared type and its parts: the element type before the first opening bracket, the count up
to the next closing bracket or to the end, and the tail from there on. -/
structure IsArray (declaration base count tail : Text) : Prop where
  written : declaration = base ++ '[' :: (count ++ tail)
  no_opening : '[' ∉ base
  no_closing : ']' ∉ count
  ended : tail = [] ∨ ∃ rest, tail = ']' :: rest

/-- What a count stands for. -/
inductive StandsFor (constants : Constants) (count : Text) : Int → Prop where
  | constant {value : Int64} (listed : constants.get? count = some value) :
      StandsFor constants count value.toInt
  | literal {value : Int} (unlisted : constants.get? count = none)
      (read : IntLiteral.parse? count = some value) : StandsFor constants count value

/-- Whether an integer is an unsigned 64-bit one. -/
def IsUnsigned (value : Int) : Prop :=
  0 ≤ value ∧ value ≤ 0xffffffffffffffff

instance (value : Int) : Decidable (IsUnsigned value) :=
  inferInstanceAs (Decidable (_ ∧ _))

theorem IsUnsigned.inRange {value : Int} (unsigned : IsUnsigned value) :
    IntLiteral.InRange value := by
  obtain ⟨lower, upper⟩ := unsigned
  constructor <;> omega

/-! ## Parts -/

theorem IsArray.runs (array : IsArray declaration base count tail) :
    countText (count ++ tail) = count ∧ (count ++ tail).dropWhile (· ≠ ']') = tail := by
  have inside : ∀ c ∈ count, decide (c ≠ ']') = true := fun c member =>
    decide_eq_true fun closing => array.no_closing (closing ▸ member)
  have outside : ∀ c ∈ tail.head?, decide (c ≠ ']') = false := by
    rcases array.ended with rfl | ⟨rest, rfl⟩ <;> simp
  exact ⟨Text.takeWhile_append_eq_left inside outside,
    Text.dropWhile_append_eq_right inside outside⟩

theorem ended_dropWhile (behind : Text) :
    behind.dropWhile (· ≠ ']') = [] ∨ ∃ rest, behind.dropWhile (· ≠ ']') = ']' :: rest := by
  cases dropped : behind.dropWhile (· ≠ ']') with
  | nil => exact .inl rfl
  | cons c rest =>
      have first : c ∈ (behind.dropWhile (· ≠ ']')).head? := by
        rw [dropped]
        rfl
      have closing : c = ']' := by simpa using Text.of_mem_head?_dropWhile first
      exact .inr ⟨rest, by rw [closing]⟩

/-- The parts are found by cutting at the opening bracket and running up to the closing one. -/
theorem isArray_iff : IsArray declaration base count tail ↔ ∃ behind,
    Text.cut? '[' declaration = some (base, behind) ∧ countText behind = count ∧
      behind.dropWhile (· ≠ ']') = tail := by
  constructor
  · intro array
    exact ⟨count ++ tail, Text.cut?_eq_some_iff.mpr ⟨array.written, array.no_opening⟩, array.runs⟩
  · rintro ⟨behind, cut, rfl, rfl⟩
    obtain ⟨written, no_opening⟩ := Text.cut?_eq_some_iff.mp cut
    refine ⟨?_, no_opening, fun member => ?_, ended_dropWhile behind⟩
    · rw [countText, List.takeWhile_append_dropWhile, written]
    · simpa using List.mem_takeWhile_imp member

theorem existsUnique_isArray (bracket : '[' ∈ declaration) :
    ∃! parts : Text × Text × Text, IsArray declaration parts.1 parts.2.1 parts.2.2 := by
  obtain ⟨base, behind, split, first⟩ := List.eq_append_cons_of_mem bracket
  have cut := Text.cut?_eq_some_iff.mpr ⟨split, first⟩
  refine ⟨(base, _, _), isArray_iff.mpr ⟨behind, cut, rfl, rfl⟩, ?_⟩
  rintro ⟨base', count', tail'⟩ array
  obtain ⟨behind', cut', rfl, rfl⟩ := isArray_iff.mp array
  cases cut.symm.trans cut'
  rfl

/-! ## Counts -/

theorem standsFor_iff {value : Int} :
    StandsFor constants count value ↔ countValue? constants count = some value := by
  unfold countValue?
  constructor
  · rintro (listed | ⟨unlisted, read⟩)
    · rw [listed]
    · rw [unlisted, read]
  · intro found
    split at found
    · next listed => exact Option.some.inj found ▸ .constant listed
    · next unlisted => exact .literal unlisted found

section Split

variable (array : IsArray declaration base count tail)

include array

theorem IsArray.split_of_standsFor {value : Int} (standsFor : StandsFor constants count value)
    (unsigned : IsUnsigned value) : split declaration constants = .ok ⟨value.toNat, base⟩ := by
  obtain ⟨behind, cut, rfl, -⟩ := isArray_iff.mp array
  simp only [split, cut, standsFor_iff.mp standsFor]
  exact if_pos ⟨unsigned.1, Int.lt_add_one_of_le unsigned.2⟩

theorem IsArray.split_of_invalid
    (invalid : ¬ ∃ value, StandsFor constants count value ∧ IsUnsigned value) :
    split declaration constants = .error (.invalidArrayCount declaration count) := by
  obtain ⟨behind, cut, rfl, -⟩ := isArray_iff.mp array
  simp only [split, cut]
  split
  · rfl
  · next value found =>
      refine if_neg fun range => invalid ⟨value, standsFor_iff.mpr found, range.1, ?_⟩
      exact Int.le_of_lt_add_one range.2

theorem IsArray.split_eq_iff :
    (∀ type, split declaration constants = .ok type ↔
      ∃ value, StandsFor constants count value ∧ IsUnsigned value ∧
        type = ⟨value.toNat, base⟩) ∧
    ∀ cause, split declaration constants = .error cause ↔
      (¬ ∃ value, StandsFor constants count value ∧ IsUnsigned value) ∧
        cause = .invalidArrayCount declaration count := by
  refine except_eq_iff_of_total ?succeeds ?fails ?total
  case succeeds =>
    rintro _ ⟨value, standsFor, unsigned, rfl⟩
    exact array.split_of_standsFor standsFor unsigned
  case fails =>
    rintro _ ⟨invalid, rfl⟩
    exact array.split_of_invalid invalid
  case total =>
    by_cases valid : ∃ value, StandsFor constants count value ∧ IsUnsigned value
    · obtain ⟨value, standsFor, unsigned⟩ := valid
      exact .inl ⟨_, value, standsFor, unsigned, rfl⟩
    · exact .inr ⟨_, valid, rfl⟩

end Split

theorem split_of_no_bracket (no_bracket : '[' ∉ declaration) :
    split declaration constants = .ok ⟨1, declaration⟩ := by
  rw [split, Text.cut?_eq_none_iff.mpr no_bracket]

/-- The decimal digits of a number in brackets are read as that number. -/
theorem split_ofNat (no_opening : '[' ∉ base) {n : Nat} (unsigned : IsUnsigned n)
    (unlisted : constants.get? (Text.ofNat n) = none) (rest : Text) :
    split (base ++ '[' :: (Text.ofNat n ++ ']' :: rest)) constants = .ok ⟨n, base⟩ := by
  have no_closing : ']' ∉ Text.ofNat n := fun member =>
    absurd (IntLiteral.isDigit_of_mem_ofNat member) (by decide)
  have array : IsArray (base ++ '[' :: (Text.ofNat n ++ ']' :: rest)) base (Text.ofNat n)
      (']' :: rest) := ⟨rfl, no_opening, no_closing, .inr ⟨rest, rfl⟩⟩
  have read : IntLiteral.parse? (Text.ofInt n) = some (n : Int) :=
    IntLiteral.parse?_ofInt unsigned.inRange
  have standsFor : StandsFor constants (Text.ofNat n) n := .literal unlisted read
  rw [array.split_of_standsFor standsFor unsigned, Int.toNat_natCast]

/-- A declared type without an opening bracket is one element of itself.  One with an opening
bracket has its parts in exactly one way; it splits into the element type and the number that the
count stands for exactly if that is unsigned, and otherwise the count is at fault.  So the decimal
digits of an unsigned number that are no constant are split off again, whatever follows them. -/
theorem split_by_parts (declaration : Text) (constants : Constants) :
    ('[' ∉ declaration → split declaration constants = .ok ⟨1, declaration⟩) ∧
    ('[' ∈ declaration →
      ∃! parts : Text × Text × Text, IsArray declaration parts.1 parts.2.1 parts.2.2) ∧
    (∀ base count tail, IsArray declaration base count tail →
      (∀ type, split declaration constants = .ok type ↔
        ∃ value, StandsFor constants count value ∧ IsUnsigned value ∧
          type = ⟨value.toNat, base⟩) ∧
      ∀ cause, split declaration constants = .error cause ↔
        (¬ ∃ value, StandsFor constants count value ∧ IsUnsigned value) ∧
          cause = .invalidArrayCount declaration count) ∧
    ∀ base (n : Nat) rest, '[' ∉ base → IsUnsigned n → constants.get? (Text.ofNat n) = none →
      split (base ++ '[' :: (Text.ofNat n ++ ']' :: rest)) constants = .ok ⟨n, base⟩ :=
  ⟨split_of_no_bracket, existsUnique_isArray,
    fun _ _ _ array => array.split_eq_iff,
    fun _ _ rest no_opening unsigned unlisted => split_ofNat no_opening unsigned unlisted rest⟩

/-- A constant may have the digits of a number for its name. -/
theorem split_by_parts_digitsAsName :
    IsArray "char[16] x".toList "char".toList "16".toList "] x".toList ∧
      (Constants.ofList [("16".toList, 2)]).get? "16".toList = some 2 ∧
      split "char[16] x".toList (Constants.ofList [("16".toList, 2)]) =
        .ok ⟨2, "char".toList⟩ := by
  have array : IsArray "char[16] x".toList "char".toList "16".toList "] x".toList :=
    ⟨rfl, by decide, by decide, .inr ⟨" x".toList, rfl⟩⟩
  have listed : (Constants.ofList [("16".toList, 2)]).get? "16".toList = some 2 := rfl
  obtain ⟨-, -, parts, -⟩ :=
    split_by_parts "char[16] x".toList (Constants.ofList [("16".toList, 2)])
  obtain ⟨success, -⟩ := parts _ _ _ array
  exact ⟨array, listed, (success _).mpr ⟨_, .constant listed, by decide, rfl⟩⟩

end ArrayType
end CHeader
