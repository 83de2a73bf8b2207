import Mathlib.Data.List.Basic
import Mathlib.Data.List.TakeWhile
import CHeader.Define
import CHeader.Proofs.Lines

/-!
# Lines that define a macro

The reader of a line takes it apart into runs of spaces, the directive, the name and the value.
-/

namespace CHeader
namespace Define

theorem head?_dropWhile_space (text : Text) : (text.dropWhile (· = ' ')).head? ≠ some ' ' := by
  intro first
  simpa using Text.of_mem_head?_dropWhile first

theorem exists_spaces_append_dropWhile (text : Text) :
    ∃ gap : Text, (∀ c ∈ gap, c = ' ') ∧ text = gap ++ text.dropWhile (· = ' ') := by
  refine ⟨text.takeWhile (· = ' '), fun c member => ?_, List.takeWhile_append_dropWhile.symm⟩
  simpa using List.mem_takeWhile_imp member

theorem afterSpaces?_eq (text : Text) :
    afterSpaces? text =
      if text.head? = some ' ' then some (text.dropWhile (· = ' ')) else none := by
  unfold afterSpaces?
  split
  · simp
  · next no_space =>
      refine (if_neg fun first => ?_).symm
      obtain ⟨behind, same⟩ := List.head?_eq_some_iff.mp first
      exact no_space behind same

theorem afterSpaces?_source {text rest : Text} (found : afterSpaces? text = some rest) :
    ∃ gap : Text, (∀ c ∈ gap, c = ' ') ∧ gap ≠ [] ∧ text = gap ++ rest ∧
      rest.head? ≠ some ' ' := by
  unfold afterSpaces? at found
  split at found
  · next text' =>
      obtain rfl := Option.some.inj found
      obtain ⟨gap, spaces, split⟩ := exists_spaces_append_dropWhile text'
      refine ⟨' ' :: gap, List.forall_mem_cons.mpr ⟨rfl, spaces⟩, List.cons_ne_nil ' ' gap, ?_,
        head?_dropWhile_space text'⟩
      rw [List.cons_append, ← split]
  · simp at found

theorem dropWhile_spaces_append {gap rest : Text} (spaces : ∀ c ∈ gap, c = ' ')
    (ended : rest.head? ≠ some ' ') : (gap ++ rest).dropWhile (· = ' ') = rest :=
  Text.dropWhile_append_eq_right (by simpa using spaces) fun c first =>
    decide_eq_false fun space : c = ' ' => ended (space ▸ first)

theorem afterSpaces?_append {gap rest : Text} (spaces : ∀ c ∈ gap, c = ' ') (nonempty : gap ≠ [])
    (ended : rest.head? ≠ some ' ') : afterSpaces? (gap ++ rest) = some rest := by
  obtain ⟨c, gap, rfl⟩ := List.exists_cons_of_ne_nil nonempty
  obtain ⟨rfl, later⟩ := List.forall_mem_cons.mp spaces
  exact congrArg some (dropWhile_spaces_append later ended)

/-- A line of spaces, the directive, spaces, a name, spaces and a value. -/
def IsDefinedBy (define : Define) (line : Text) : Prop :=
  ∃ front gap gap' : Text, (∀ c ∈ front ++ gap ++ gap', c = ' ') ∧ gap ≠ [] ∧ gap' ≠ [] ∧
    line = front ++ "#define".toList ++ gap ++ define.name ++ gap' ++ define.value ∧
    define.name ≠ [] ∧ ' ' ∉ define.name ∧ define.value ≠ [] ∧ define.value.head? ≠ some ' '

theorem ofLine?_source {line : Text} {define : Define} (read : ofLine? line = some define) :
    define.IsDefinedBy line := by
  obtain ⟨front, front_spaces, front_split⟩ := exists_spaces_append_dropWhile line
  obtain ⟨behind, directive, read⟩ := Option.bind_eq_some_iff.mp read
  obtain ⟨text, name_found, read⟩ := Option.bind_eq_some_iff.mp read
  obtain ⟨value, value_found, read⟩ := Option.bind_eq_some_iff.mp read
  obtain ⟨gap, gap_spaces, gap_nonempty, gap_split, -⟩ := afterSpaces?_source name_found
  obtain ⟨gap', gap_spaces', gap_nonempty', gap_split', value_front⟩ :=
    afterSpaces?_source value_found
  split at read
  · simp at read
  · next nonempty =>
      obtain rfl := Option.some.inj read
      simp only [Bool.or_eq_true, List.isEmpty_iff, not_or] at nonempty
      have name_split : text = text.takeWhile (· ≠ ' ') ++ (gap' ++ value) := by
        rw [← gap_split', List.takeWhile_append_dropWhile]
      refine ⟨front, gap, gap', ?_, gap_nonempty, gap_nonempty', ?_, nonempty.1, ?_, nonempty.2,
        value_front⟩
      · simp only [List.forall_mem_append]
        exact ⟨⟨front_spaces, gap_spaces⟩, gap_spaces'⟩
      · rw [front_split, Text.eq_append_of_dropFront? directive, gap_split]
        nth_rewrite 1 [name_split]
        simp only [List.append_assoc]
      · intro member
        simpa using List.mem_takeWhile_imp member

theorem ofLine?_of_isDefinedBy {line : Text} {define : Define} (defined : define.IsDefinedBy line) :
    ofLine? line = some define := by
  obtain ⟨front, gap, gap', spaces, gap_nonempty, gap_nonempty', rfl, name_nonempty, no_space,
    value_nonempty, value_front⟩ := defined
  simp only [List.forall_mem_append] at spaces
  obtain ⟨⟨front_spaces, gap_spaces⟩, gap_spaces'⟩ := spaces
  obtain ⟨name, value⟩ := define
  have directive : (front ++ ("#define".toList ++ (gap ++ (name ++ (gap' ++ value))))).dropWhile
      (· = ' ') = "#define".toList ++ (gap ++ (name ++ (gap' ++ value))) :=
    dropWhile_spaces_append front_spaces (by simp)
  have name_front : (name ++ (gap' ++ value)).head? ≠ some ' ' := fun first => by
    rw [List.head?_append_of_ne_nil _ name_nonempty] at first
    exact no_space (List.mem_of_mem_head? first)
  have inside : ∀ c ∈ name, decide (c ≠ ' ') = true := fun c member =>
    decide_eq_true fun space : c = ' ' => no_space (space ▸ member)
  have outside : ∀ c ∈ (gap' ++ value).head?, decide (c ≠ ' ') = false := fun c first => by
    rw [List.head?_append_of_ne_nil _ gap_nonempty'] at first
    simpa using gap_spaces' c (List.mem_of_mem_head? first)
  simp only [List.append_assoc, ofLine?, directive, Text.dropFront?_append, bind, Option.bind_some,
    afterSpaces?_append gap_spaces gap_nonempty name_front,
    Text.takeWhile_append_eq_left inside outside, Text.dropWhile_append_eq_right inside outside,
    afterSpaces?_append gap_spaces' gap_nonempty' value_front]
  simp [name_nonempty, value_nonempty]

/-- The reader of a line takes it apart in the only possible way. -/
theorem ofLine?_eq_some_iff {line : Text} {define : Define} :
    ofLine? line = some define ↔ define.IsDefinedBy line :=
  ⟨ofLine?_source, ofLine?_of_isDefinedBy⟩

/-- Reads a line whose value is not continued. -/
def ofWholeLine? (line : Text) : Option Define :=
  (ofLine? line).filter fun define => !define.isContinued

theorem ofWholeLine?_eq_some_iff {line : Text} {define : Define} :
    ofWholeLine? line = some define ↔
      define.IsDefinedBy line ∧ define.value.getLast? ≠ some '\\' := by
  simp [ofWholeLine?, ofLine?_eq_some_iff, isContinued]

theorem ofHeader_eq_filterMap (text : Text) :
    ofHeader text = (Source.normalLines text).filterMap ofWholeLine? := by
  rw [ofHeader, lines, List.filter_filterMap]
  rfl

theorem ofLine?_of_no_hash {line : Text} (no_hash : '#' ∉ line) : ofLine? line = none := by
  have no_directive : Text.dropFront? "#define".toList (line.dropWhile (· = ' ')) = none := by
    cases found : Text.dropFront? "#define".toList (line.dropWhile (· = ' ')) with
    | none => rfl
    | some rest =>
        have hash : '#' ∈ line.dropWhile (· = ' ') := by
          simp [Text.eq_append_of_dropFront? found]
        exact absurd ((List.dropWhile_sublist _).subset hash) no_hash
  rw [ofLine?, no_directive]
  rfl

end Define
end CHeader
