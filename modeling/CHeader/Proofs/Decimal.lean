import CHeader.Proofs.IntLiterals

/-!
# Decimal literals

The decimal digits of an integer are a literal for it: they begin with a zero only if there is no
other digit, so they announce no other base.
-/

namespace CHeader
namespace IntLiteral

theorem digitValue_of_isDigit {c : Char} (digit : c.isDigit = true) :
    digitValue c = c.toNat - '0'.toNat := by
  simp only [Char.isDigit, Bool.and_eq_true, decide_eq_true_eq] at digit
  exact if_pos digit

theorem isDigit_of_isDigit {c : Char} (digit : c.isDigit = true) : isDigit 10 c = true := by
  rw [isDigit, digitValue_of_isDigit digit, decide_eq_true_eq]
  simp only [Char.isDigit, Bool.and_eq_true, decide_eq_true_eq] at digit
  have upper : c.toNat ≤ 57 := digit.2
  have zero : '0'.toNat = 48 := rfl
  omega

theorem isDigit_of_mem_ofNat {n : Nat} {c : Char} (member : c ∈ Text.ofNat n) :
    c.isDigit = true :=
  Nat.isDigit_of_mem_toDigits (by decide) (by decide) member

theorem ofDigits_ofNat (n : Nat) : ofDigits 10 (Text.ofNat n) = n := by
  have steps (digits : Text) (digit : ∀ c ∈ digits, c.isDigit = true) (value : Nat) :
      digits.foldl (fun value digit => value * 10 + digitValue digit) value =
        Nat.ofDigitChars 10 digits value := by
    induction digits generalizing value with
    | nil => simp
    | cons c digits ih =>
        obtain ⟨digit_c, digit_rest⟩ := List.forall_mem_cons.mp digit
        rw [List.foldl_cons, Nat.ofDigitChars_cons, ih digit_rest, digitValue_of_isDigit digit_c,
          Nat.mul_comm]
  rw [ofDigits, steps _ fun _ => isDigit_of_mem_ofNat]
  exact Nat.ofDigitChars_ten_toDigits

/-- Only the numeral of zero begins with a zero. -/
theorem head?_ofNat_ne_zero {n : Nat} (positive : 0 < n) : (Text.ofNat n).head? ≠ some '0' := by
  induction n using Nat.strongRecOn with
  | _ n ih =>
      by_cases single : n < 10
      · rw [Text.ofNat, Nat.toDigits_of_lt_base single]
        simpa using Nat.ne_of_gt positive
      · have shorter := ih (n / 10) (by omega) (by omega)
        rw [Text.ofNat] at shorter ⊢
        obtain ⟨first, digits, split⟩ :=
          List.exists_cons_of_ne_nil (Nat.toDigits_ne_nil (n := n / 10) (b := 10))
        rw [Nat.toDigits_of_base_le (by decide) (by omega), split]
        rwa [split] at shorter

theorem splitBase_ofNat (n : Nat) : splitBase (Text.ofNat n) = (10, Text.ofNat n) := by
  by_cases positive : 0 < n
  · exact splitBase_of_front_ne (head?_ofNat_ne_zero positive)
  · obtain rfl : n = 0 := by omega
    rfl

theorem numeral?_ofNat {n : Nat} (fits : n < limit) : numeral? (Text.ofNat n) = some n := by
  have nonempty : (Text.ofNat n).isEmpty = false := by simp [Text.ofNat]
  have digits : (Text.ofNat n).all (isDigit 10) = true :=
    List.all_eq_true.mpr fun c member => isDigit_of_isDigit (isDigit_of_mem_ofNat member)
  simp only [numeral?, splitBase_ofNat, nonempty, digits, Bool.not_false, Bool.and_self, if_true]
  rw [accumulate?_eq (by decide), ofDigits_ofNat, checked_of_pos fits]

theorem splitSign_ofNat (n : Nat) : splitSign (Text.ofNat n) = (false, Text.ofNat n) := by
  unfold splitSign
  split
  · next numeral same =>
      have digit := isDigit_of_mem_ofNat (n := n) (c := '-') (by simp [same])
      simp [Char.isDigit] at digit
  · next numeral same =>
      have digit := isDigit_of_mem_ofNat (n := n) (c := '+') (by simp [same])
      simp [Char.isDigit] at digit
  · rfl

theorem not_blank_of_isDigit {c : Char} (digit : c.isDigit = true) : Text.isBlank c = false := by
  have ascii : c.toNat < 128 := by
    simp only [Char.isDigit, Bool.and_eq_true, decide_eq_true_eq] at digit
    have upper : c.toNat ≤ 57 := digit.2
    omega
  revert digit
  exact Text.of_ascii (p := fun c => c.isDigit = true → Text.isBlank c = false)
    (by decide) ascii

theorem trim_ofInt (value : Int) : Text.trim (Text.ofInt value) = Text.ofInt value := by
  have solid : ∀ c ∈ Text.ofInt value, Text.isBlank c = false := by
    intro c member
    cases value with
    | ofNat n => exact not_blank_of_isDigit (isDigit_of_mem_ofNat member)
    | negSucc n =>
        rcases List.mem_cons.mp member with rfl | member
        · decide
        · exact not_blank_of_isDigit (isDigit_of_mem_ofNat member)
  exact Text.trim_eq_self (fun c first => solid c (List.mem_of_mem_head? first))
    (fun c last => solid c (List.mem_of_mem_getLast? last))

/-- The decimal form of an integer in range is a literal with that value. -/
theorem parse?_ofInt {value : Int} (in_range : InRange value) :
    parse? (Text.ofInt value) = some value := by
  rw [parse?, trim_ofInt]
  cases value with
  | ofNat n =>
      have fits := lt_of_inRange false in_range
      simp only [Text.ofInt, splitSign_ofNat, numeral?_ofNat fits]
      exact if_pos in_range
  | negSucc n =>
      have fits := lt_of_inRange true (n := n + 1) in_range
      simp only [Text.ofInt, splitSign, numeral?_ofNat fits]
      exact if_pos in_range

theorem inRange_of_parse? {text : Text} {value : Int} (read : parse? text = some value) :
    InRange value := by
  rw [parse?_eq_bind] at read
  obtain ⟨n, -, kept⟩ := Option.bind_eq_some_iff.mp read
  rw [Option.ite_none_right_eq_some] at kept
  exact Option.some.inj kept.2 ▸ kept.1

theorem parse?_ofInt_eq_some_iff {value : Int} :
    parse? (Text.ofInt value) = some value ↔ InRange value :=
  ⟨inRange_of_parse?, parse?_ofInt⟩

theorem ofNat_injective : Function.Injective Text.ofNat := by
  intro n m same
  have digits := congrArg (ofDigits 10) same
  rwa [ofDigits_ofNat, ofDigits_ofNat] at digits

theorem ofNat_ne_minus (n : Nat) (text : Text) : Text.ofNat n ≠ '-' :: text := by
  intro same
  have signs := congrArg splitSign same
  rw [splitSign_ofNat] at signs
  simp [splitSign] at signs

/-- Different integers are written differently. -/
theorem ofInt_injective : Function.Injective Text.ofInt := by
  intro value other same
  cases value with
  | ofNat n =>
      cases other with
      | ofNat m => rw [ofNat_injective same]
      | negSucc m => exact absurd same (ofNat_ne_minus n _)
  | negSucc n =>
      cases other with
      | ofNat m => exact absurd same.symm (ofNat_ne_minus m _)
      | negSucc m => rw [Nat.succ.inj (ofNat_injective (List.cons.inj same).2)]

end IntLiteral
end CHeader
