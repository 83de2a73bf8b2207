/-!
# Text

Text is a list of characters, so that it can be taken apart by pattern matching.  This file holds
the few ways of cutting and joining text that the other files share; splitting at every separator
is `List.splitOn`.
-/

namespace CHeader

/-- Text, one entry for each Unicode scalar value. -/
abbrev Text := List Char

namespace Text

/-- What follows `front` in a text that begins with it. -/
def dropFront? : Text → Text → Option Text
  | [], text => some text
  | _ :: _, [] => none
  | f :: front, c :: text => if f = c then dropFront? front text else none

theorem dropFront?_append (front rest : Text) : dropFront? front (front ++ rest) = some rest := by
  induction front with
  | nil => rfl
  | cons f front ih => simp [dropFront?, ih]

theorem eq_append_of_dropFront? {front text rest : Text}
    (found : dropFront? front text = some rest) : text = front ++ rest := by
  induction front generalizing text with
  | nil => simpa [dropFront?] using found
  | cons f front ih =>
      cases text with
      | nil => simp [dropFront?] at found
      | cons c text =>
          by_cases same : f = c
          · subst same
            simp only [dropFront?, if_true] at found
            simp [ih found]
          · simp [dropFront?, same] at found

/-- The parts before and after the first occurrence of `mark`, if there is one. -/
def cut? (mark : Char) : Text → Option (Text × Text)
  | [] => none
  | c :: text =>
      if c = mark then some ([], text)
      else (cut? mark text).map fun (front, rest) => (c :: front, rest)

theorem cut?_eq_some_iff {mark : Char} {text front rest : Text} :
    cut? mark text = some (front, rest) ↔ text = front ++ mark :: rest ∧ mark ∉ front := by
  induction text generalizing front with
  | nil => simp [cut?]
  | cons c text ih =>
      by_cases hit : c = mark
      · subst hit
        cases front with
        | nil => simp [cut?, eq_comm]
        | cons f front => simp [cut?]; grind
      · cases front with
        | nil => simp [cut?, hit]
        | cons f front =>
            simp only [cut?, hit, if_false, Option.map_eq_some_iff, Prod.mk.injEq,
              List.cons_append, List.cons.injEq, List.mem_cons, not_or]
            constructor
            · rintro ⟨⟨front', rest'⟩, found, ⟨rfl, rfl⟩, rfl⟩
              have := ih.mp found
              exact ⟨⟨rfl, this.1⟩, fun eq => hit eq.symm, this.2⟩
            · rintro ⟨⟨rfl, rfl⟩, _, fresh⟩
              exact ⟨(front, rest), ih.mpr ⟨rfl, fresh⟩, ⟨rfl, rfl⟩, rfl⟩

theorem cut?_eq_none_iff {mark : Char} {text : Text} : cut? mark text = none ↔ mark ∉ text := by
  constructor
  · intro uncut member
    obtain ⟨front, rest, split, fresh⟩ := List.eq_append_cons_of_mem member
    simp [cut?_eq_some_iff.mpr ⟨split, fresh⟩] at uncut
  · intro fresh
    cases parts : cut? mark text with
    | none => rfl
    | some pair =>
        obtain ⟨split, -⟩ := cut?_eq_some_iff.mp parts
        exact absurd (by simp [split]) fresh

/-- Lines joined by newlines, with none after the last line. -/
def ofLines (lines : List Text) : Text :=
  List.intercalate ['\n'] lines

/-- The first line of a nonempty text.  A carriage return right before the newline belongs to the
line ending. -/
def firstLine? (text : Text) : Option Text :=
  if text.isEmpty then none
  else
    match cut? '\n' text with
    | none => some text
    | some (line, _) => if line.getLast? = some '\r' then some line.dropLast else some line

/-- Decimal digits of a natural number, without leading zeros. -/
def ofNat (n : Nat) : Text :=
  Nat.toDigits 10 n

/-- Decimal digits of an integer, after a minus sign if it is negative. -/
def ofInt : Int → Text
  | .ofNat n => ofNat n
  | .negSucc n => '-' :: ofNat (n + 1)

end Text
end CHeader
