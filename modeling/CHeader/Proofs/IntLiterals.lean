import Mathlib.Data.List.Forall2
import Mathlib.Data.Nat.Digits.Defs
import CHeader.IntLiteral
import CHeader.Proofs.Lines

/-!
# Which texts are integer literals

A literal is read digit by digit into an integer of bounded size.  The sum only grows, so it
overflows exactly if the number itself is too large, however many zeros stand in front of it.  The
texts that are literals then follow from their grammar alone.
-/

namespace CHeader
namespace IntLiteral

/-! ## Overflow -/

theorem checked_of_pos {n : Nat} (fits : n < limit) : checked n = some n :=
  if_pos fits

theorem checked_of_neg {n : Nat} (overflows : ¬ n < limit) : checked n = none :=
  if_neg overflows

/-- A product that overflows leaves no room for the digit either. -/
theorem addDigit?_eq (base value : Nat) (digit : Char) :
    addDigit? base value digit = checked (value * base + digitValue digit) := by
  by_cases fits : value * base < limit
  · rw [addDigit?, checked_of_pos fits]
    rfl
  · have sum_overflows : ¬ value * base + digitValue digit < limit := by omega
    rw [addDigit?, checked_of_neg fits, checked_of_neg sum_overflows]
    rfl

theorem le_foldl_digits {base : Nat} (positive : 0 < base) (digits : Text) (value : Nat) :
    value ≤ digits.foldl (fun value digit => value * base + digitValue digit) value := by
  induction digits generalizing value with
  | nil => exact Nat.le_refl value
  | cons digit digits ih =>
      calc value ≤ value * base := Nat.le_mul_of_pos_right value positive
        _ ≤ value * base + digitValue digit := Nat.le_add_right _ _
        _ ≤ _ := ih _

theorem foldlM_addDigit? {base value : Nat} (positive : 0 < base) (fits : value < limit)
    (digits : Text) : digits.foldlM (addDigit? base) value =
      checked (digits.foldl (fun value digit => value * base + digitValue digit) value) := by
  induction digits generalizing value with
  | nil => exact (checked_of_pos fits).symm
  | cons digit digits ih =>
      rw [List.foldlM_cons, List.foldl_cons, addDigit?_eq]
      by_cases sum_fits : value * base + digitValue digit < limit
      · rw [checked_of_pos sum_fits]
        exact ih sum_fits
      · have grows := le_foldl_digits positive digits (value * base + digitValue digit)
        rw [checked_of_neg sum_fits, checked_of_neg (by omega)]
        rfl

/-- The sum overflows exactly if the number is too large. -/
theorem accumulate?_eq {base : Nat} (positive : 0 < base) (digits : Text) :
    accumulate? base digits = checked (ofDigits base digits) :=
  foldlM_addDigit? positive (by decide) digits

/-! ## Grammar -/

/-- A digit and its value; letters of either case go on after nine. -/
def IsDigitFor (digit : Char) (value : Nat) : Prop :=
  (digit, value) ∈ "0123456789abcdef".toList.zipIdx ∨
    (digit, value) ∈ "0123456789ABCDEF".toList.zipIdx

/-- Digits of a base, the most significant first, and the number that they denote. -/
def AreDigitsFor (base : Nat) (digits : Text) (n : Nat) : Prop :=
  digits ≠ [] ∧ ∃ values, List.Forall₂ IsDigitFor digits values ∧
    (∀ value ∈ values, value < base) ∧ n = Nat.ofDigits base values.reverse

/-- Numerals without sign and the numbers that they denote. -/
inductive IsNumeral : Text → Nat → Prop where
  | hexadecimal {mark : Char} {digits : Text} {n : Nat} (marked : mark = 'x' ∨ mark = 'X')
      (written : AreDigitsFor 16 digits n) : IsNumeral ('0' :: mark :: digits) n
  | octal {mark : Char} {digits : Text} {n : Nat} (marked : mark = 'o' ∨ mark = 'O')
      (written : AreDigitsFor 8 digits n) : IsNumeral ('0' :: mark :: digits) n
  | binary {mark : Char} {digits : Text} {n : Nat} (marked : mark = 'b' ∨ mark = 'B')
      (written : AreDigitsFor 2 digits n) : IsNumeral ('0' :: mark :: digits) n
  | leadingZero {digits : Text} {n : Nat} (written : AreDigitsFor 8 digits n) :
      IsNumeral ('0' :: digits) n
  | zero : IsNumeral ['0'] 0
  | decimal {digits : Text} {n : Nat} (front : digits.head? ≠ some '0')
      (written : AreDigitsFor 10 digits n) : IsNumeral digits n

/-- Numerals with or without sign and the integers that they denote. -/
inductive Denotes : Text → Int → Prop where
  | unsigned {numeral : Text} {n : Nat} (written : IsNumeral numeral n) : Denotes numeral n
  | plus {numeral : Text} {n : Nat} (written : IsNumeral numeral n) : Denotes ('+' :: numeral) n
  | minus {numeral : Text} {n : Nat} (written : IsNumeral numeral n) : Denotes ('-' :: numeral) (-n)

/-! ## Digits -/

theorem digitValue_of_not_ascii {c : Char} (large : ¬ c.toNat < 128) : digitValue c = 36 := by
  have above (bound : Char) (ascii : bound.toNat < 128) : ¬ c ≤ bound := fun below =>
    large (Nat.lt_of_le_of_lt below ascii)
  rw [digitValue, if_neg fun digit => above '9' (by decide) digit.2,
    if_neg fun letter => above 'z' (by decide) letter.2,
    if_neg fun letter => above 'Z' (by decide) letter.2]

theorem isDigitFor_iff {digit : Char} {value : Nat} :
    IsDigitFor digit value ↔ value < 16 ∧ digitValue digit = value := by
  constructor
  · have small : ∀ pair ∈ "0123456789abcdef".toList.zipIdx,
        pair.2 < 16 ∧ digitValue pair.1 = pair.2 := by decide
    have large : ∀ pair ∈ "0123456789ABCDEF".toList.zipIdx,
        pair.2 < 16 ∧ digitValue pair.1 = pair.2 := by decide
    rintro (listed | listed)
    · exact small (digit, value) listed
    · exact large (digit, value) listed
  · rintro ⟨bound, rfl⟩
    have ascii : digit.toNat < 128 := by
      by_contra large
      rw [digitValue_of_not_ascii large] at bound
      omega
    revert bound
    exact Text.of_ascii (p := fun digit => digitValue digit < 16 →
      IsDigitFor digit (digitValue digit)) (by unfold IsDigitFor; decide) ascii

theorem ofDigits_eq (base : Nat) (digits : Text) :
    ofDigits base digits = Nat.ofDigits base (digits.map digitValue).reverse := by
  rw [ofDigits, Nat.ofDigits_eq_foldr, List.foldr_reverse, List.foldl_map]
  simp only [Nat.cast_id, Nat.add_comm, Nat.mul_comm]

theorem eq_map_digitValue {digits : Text} {values : List Nat}
    (written : List.Forall₂ IsDigitFor digits values) : values = digits.map digitValue := by
  induction written with
  | nil => rfl
  | cons first later ih => rw [List.map_cons, (isDigitFor_iff.mp first).2, ← ih]

theorem areDigitsFor_iff {base : Nat} (small : base ≤ 16) {digits : Text} {n : Nat} :
    AreDigitsFor base digits n ↔
      digits ≠ [] ∧ (∀ digit ∈ digits, isDigit base digit = true) ∧ ofDigits base digits = n := by
  refine and_congr_right fun _ => ?_
  constructor
  · rintro ⟨values, written, bounded, rfl⟩
    obtain rfl := eq_map_digitValue written
    refine ⟨fun digit member => ?_, ofDigits_eq base digits⟩
    exact decide_eq_true (bounded (digitValue digit) (List.mem_map_of_mem member))
  · rintro ⟨accepted, rfl⟩
    have below (digit : Char) (member : digit ∈ digits) : digitValue digit < base :=
      of_decide_eq_true (accepted digit member)
    refine ⟨digits.map digitValue, ?_, List.forall_mem_map.mpr below, ofDigits_eq base digits⟩
    rw [List.forall₂_map_right_iff, List.forall₂_same]
    exact fun digit member => isDigitFor_iff.mpr ⟨(below digit member).trans_le small, rfl⟩

/-! ## Numerals -/

theorem base_splitBase (numeral : Text) :
    0 < (splitBase numeral).1 ∧ (splitBase numeral).1 ≤ 16 := by
  unfold splitBase
  split
  · split_ifs <;> simp
  · simp

theorem splitBase_of_front_ne {numeral : Text} (front : numeral.head? ≠ some '0') :
    splitBase numeral = (10, numeral) := by
  unfold splitBase
  split
  · simp at front
  · rfl

/-- The marks of the bases are no octal digits. -/
theorem splitBase_of_octal {c : Char} (octal : isDigit 8 c = true) (digits : Text) :
    splitBase ('0' :: c :: digits) = (8, c :: digits) := by
  have unmarked (mark : Char) (other : isDigit 8 mark = false) : c ≠ mark := fun same => by
    simp [← same, octal] at other
  simp only [splitBase]
  rw [if_neg (not_or.mpr ⟨unmarked 'x' (by decide), unmarked 'X' (by decide)⟩),
    if_neg (not_or.mpr ⟨unmarked 'o' (by decide), unmarked 'O' (by decide)⟩),
    if_neg (not_or.mpr ⟨unmarked 'b' (by decide), unmarked 'B' (by decide)⟩)]

/-- The digits and the base are told apart at the front as the grammar demands. -/
theorem isNumeral_iff {numeral : Text} {n : Nat} :
    IsNumeral numeral n ↔ AreDigitsFor (splitBase numeral).1 (splitBase numeral).2 n := by
  constructor
  · intro numeral_written
    cases numeral_written with
    | hexadecimal marked written => simpa [splitBase, marked] using written
    | octal marked written => rcases marked with rfl | rfl <;> simpa [splitBase] using written
    | binary marked written => rcases marked with rfl | rfl <;> simpa [splitBase] using written
    | @leadingZero digits _ written =>
        obtain ⟨nonempty, accepted, -⟩ := (areDigitsFor_iff (by decide)).mp written
        obtain ⟨c, digits, rfl⟩ := List.exists_cons_of_ne_nil nonempty
        rwa [splitBase_of_octal (accepted c List.mem_cons_self)]
    | zero =>
        refine (areDigitsFor_iff (by decide)).mpr ⟨List.cons_ne_nil '0' [], ?_, rfl⟩
        exact List.forall_mem_singleton.mpr rfl
    | decimal front written => rwa [splitBase_of_front_ne front]
  · intro written
    by_cases front : numeral.head? = some '0'
    · obtain ⟨behind, rfl⟩ := List.head?_eq_some_iff.mp front
      cases behind with
      | nil =>
          obtain ⟨-, -, rfl⟩ := (areDigitsFor_iff (by decide)).mp written
          exact .zero
      | cons c digits =>
          simp only [splitBase] at written
          split_ifs at written with hexadecimal octal binary
          · exact .hexadecimal hexadecimal written
          · exact .octal octal written
          · exact .binary binary written
          · exact .leadingZero written
    · rw [splitBase_of_front_ne front] at written
      exact .decimal front written

theorem numeral?_eq_some_iff {numeral : Text} {n : Nat} :
    numeral? numeral = some n ↔ IsNumeral numeral n ∧ n < limit := by
  obtain ⟨positive, small⟩ := base_splitBase numeral
  rw [isNumeral_iff, areDigitsFor_iff small, numeral?]
  revert positive
  generalize splitBase numeral = parts
  intro positive
  simp only [accumulate?_eq positive, checked, ite_eq_iff, Bool.and_eq_true, Bool.not_eq_true',
    List.isEmpty_eq_false_iff, List.all_eq_true, Option.some.injEq, reduceCtorEq, and_false,
    or_false]
  constructor
  · rintro ⟨⟨nonempty, accepted⟩, fits, rfl⟩
    exact ⟨⟨nonempty, accepted, rfl⟩, fits⟩
  · rintro ⟨⟨nonempty, accepted, rfl⟩, fits⟩
    exact ⟨⟨nonempty, accepted⟩, fits, rfl⟩

/-! ## Signs -/

theorem isDigit_front {numeral : Text} {n : Nat} (written : IsNumeral numeral n) :
    ∀ c ∈ numeral.head?, isDigit 10 c = true := by
  cases written with
  | decimal front written =>
      obtain ⟨-, accepted, -⟩ := (areDigitsFor_iff (by decide)).mp written
      exact fun c first => accepted c (List.mem_of_mem_head? first)
  | _ => simp [isDigit, digitValue]

theorem splitSign_of_isNumeral {numeral : Text} {n : Nat} (written : IsNumeral numeral n) :
    splitSign numeral = (false, numeral) := by
  have front := isDigit_front written
  unfold splitSign
  split
  · exact absurd (front '-' rfl) (by decide)
  · exact absurd (front '+' rfl) (by decide)
  · rfl

theorem denotes_iff {text : Text} {value : Int} :
    Denotes text value ↔ ∃ n : Nat, IsNumeral (splitSign text).2 n ∧
      value = if (splitSign text).1 then -(n : Int) else n := by
  constructor
  · intro denoted
    cases denoted with
    | @unsigned _ n written =>
        rw [splitSign_of_isNumeral written]
        exact ⟨n, written, rfl⟩
    | @plus _ n written => exact ⟨n, written, rfl⟩
    | @minus _ n written => exact ⟨n, written, rfl⟩
  · rintro ⟨n, written, rfl⟩
    unfold splitSign at written ⊢
    split at written
    · exact .minus written
    · exact .plus written
    · exact .unsigned written

theorem parse?_eq_bind (text : Text) :
    parse? text = (numeral? (splitSign (Text.trim text)).2).bind fun n =>
      let value : Int := if (splitSign (Text.trim text)).1 then -(n : Int) else n
      if InRange value then some value else none := by
  rw [parse?]
  obtain ⟨negative, numeral⟩ := splitSign (Text.trim text)
  cases read : numeral? numeral <;> simp only [read, Option.bind]

/-- Every magnitude in range fits into 128 bits. -/
theorem lt_of_inRange (negative : Bool) {n : Nat}
    (in_range : InRange (if negative then -(n : Int) else n)) : n < limit := by
  obtain ⟨lower, upper⟩ := in_range
  rw [limit]
  cases negative
  · rw [if_neg Bool.false_ne_true] at upper
    omega
  · rw [if_pos rfl] at lower
    omega

/-- A text is a literal exactly if it is written like one, blanks aside, and denotes an integer in
range; its value is that integer. -/
theorem parse?_eq_some_iff {text : Text} {value : Int} :
    parse? text = some value ↔ Denotes (Text.trim text) value ∧ InRange value := by
  simp only [denotes_iff, parse?_eq_bind, Option.bind_eq_some_iff, numeral?_eq_some_iff,
    Option.ite_none_right_eq_some, Option.some.injEq]
  constructor
  · rintro ⟨n, ⟨written, -⟩, in_range, rfl⟩
    exact ⟨⟨n, written, rfl⟩, in_range⟩
  · rintro ⟨⟨n, written, rfl⟩, in_range⟩
    exact ⟨n, ⟨written, lt_of_inRange _ in_range⟩, in_range, rfl⟩

/-- Zeros in front do not overflow. -/
example : parse? ("-0x".toList ++ List.replicate 64 '0' ++ ['7']) = some (-7) := by
  decide +kernel

end IntLiteral
end CHeader
