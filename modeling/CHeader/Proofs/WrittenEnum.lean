import CHeader.Proofs.EnumCounting
import CHeader.Proofs.WellFormed

/-!
# Enums written out

A resolved enum can be written as a declaration on one line that gives every value explicitly.  The
declaration resolves to the same enum, because names are words, expressions are trimmed and end
where they should, and integers in range are literals.  Only a counter that has run past the largest
literal is not read back as an integer.
-/

namespace CHeader

/-! ## Writing -/

/-- A value as it is written. -/
def EnumValue.written : EnumValue → Text
  | .int value => Text.ofInt value
  | .expr text => text

/-- An enumerator with its value. -/
def Enumerator.written (enumerator : Enumerator) : Text :=
  enumerator.name ++ " = ".toList ++ enumerator.value.written

/-- The enumerators, separated by commas. -/
def Enum.writtenMembers (enumerators : List Enumerator) : Text :=
  List.intercalate ", ".toList (enumerators.map Enumerator.written)

@[simp]
theorem Enum.writtenMembers_singleton (enumerator : Enumerator) :
    writtenMembers [enumerator] = enumerator.written := by
  simp [writtenMembers]

theorem Enum.writtenMembers_cons_cons (enumerator next : Enumerator) (later : List Enumerator) :
    writtenMembers (enumerator :: next :: later) =
      enumerator.written ++ ", ".toList ++ writtenMembers (next :: later) :=
  List.intercalate_cons_cons

/-- The declaration that writes out all values. -/
def Enum.written (enum : Enum) : Text :=
  BlockKind.enum.keyword ++ ' ' :: (enum.name ++ r" { ".toList ++
    writtenMembers enum.enumerators ++ r" };".toList)

theorem EnumValue.int?_eq_some_iff {value : EnumValue} {number : Int} :
    value.int? = some number ↔ value = .int number := by
  cases value <;> simp [int?]

/-! ## Marks that end an enumerator -/

/-- The marks that have no place in a written enumerator. -/
def memberMarks : Text :=
  [',', '}', '\n']

theorem Text.avoids_intercalate {marks separator : Text} {texts : List Text}
    (separator_avoids : Avoids marks separator) (each : ∀ text ∈ texts, Avoids marks text) :
    Avoids marks (List.intercalate separator texts) := by
  induction texts with
  | nil => simp [Avoids]
  | cons text texts ih =>
      obtain ⟨text_avoids, later⟩ := List.forall_mem_cons.mp each
      cases texts with
      | nil => simpa using text_avoids
      | cons next texts =>
          rw [List.intercalate_cons_cons]
          exact avoids_append.mpr ⟨avoids_append.mpr ⟨text_avoids, separator_avoids⟩, ih later⟩

theorem Enum.IsWord.avoids {name marks : Text} (word : IsWord name)
    (no_words : marks.all (fun mark => !Text.isWordChar mark) = true) : Avoids marks name :=
  fun c member mark => word.notMem (by simpa using List.all_eq_true.mp no_words c mark) member

namespace Enumerator

variable {enumerator : Enumerator} (wellFormed : enumerator.IsWellFormed)

include wellFormed

theorem IsWellFormed.value_avoids : Avoids memberMarks enumerator.value.written := by
  cases valued : enumerator.value with
  | int value => exact (Text.avoids_ofInt value).mono (by decide)
  | expr text =>
      have expression := wellFormed.value text valued
      intro c member mark
      rcases (by simpa [memberMarks] using mark : c = ',' ∨ c = '}' ∨ c = '\n') with
        rfl | rfl | rfl
      · exact expression.no_comma member
      · exact expression.no_closing member
      · exact expression.no_newline member

theorem IsWellFormed.avoids : Avoids memberMarks enumerator.written := by
  have name_avoids : Avoids memberMarks enumerator.name :=
    wellFormed.name.avoids (by decide +kernel)
  have equals_avoids : Avoids memberMarks " = ".toList := by decide
  exact avoids_append.mpr
    ⟨avoids_append.mpr ⟨name_avoids, equals_avoids⟩, wellFormed.value_avoids⟩

theorem IsWellFormed.trim_value :
    Text.trim enumerator.value.written = enumerator.value.written := by
  cases valued : enumerator.value with
  | int value => exact IntLiteral.trim_ofInt value
  | expr text => exact (wellFormed.value text valued).trimmed

/-! ## Reading what was written -/

theorem IsWellFormed.ofText?_written {gap : Text} (gap_blank : Text.isBlankText gap = true) :
    Enum.Entry.ofText? (' ' :: (enumerator.written ++ gap)) =
      some (.assigned enumerator.name enumerator.value.written) := by
  have entry := Enum.Entry.ofText?_assigned wellFormed.name (enumerator.value.written ++ gap)
  rw [Text.trim_append_blank gap_blank, wellFormed.trim_value, ← List.append_assoc] at entry
  exact entry

theorem IsWellFormed.not_blank (gap : Text) :
    Text.isBlankText (' ' :: (enumerator.written ++ gap)) = false := by
  have solid := wellFormed.name.not_blank [' '] (" = ".toList ++ enumerator.value.written ++ gap)
  simpa [written] using solid

end Enumerator

/-- An enumerator whose value is what its written form assigns. -/
def Enumerator.reread (enumerator : Enumerator) : Enumerator :=
  { enumerator with value := Enum.valueOf enumerator.value.written }

namespace Enum

/-- The written enumerators are read one by one, with blanks around them. -/
theorem resolveEntries_written {enumerators : List Enumerator}
    (wellFormed : ∀ enumerator ∈ enumerators, enumerator.IsWellFormed) (name : Text)
    (previous : Int) :
    resolveEntries name previous (entries (' ' :: (writtenMembers enumerators ++ [' ']))) =
      .ok (enumerators.map Enumerator.reread) := by
  induction enumerators generalizing previous with
  | nil => rfl
  | cons enumerator enumerators ih =>
      obtain ⟨first, later⟩ := List.forall_mem_cons.mp wellFormed
      have no_comma : ',' ∉ enumerator.written := first.avoids.notMem (by decide)
      cases enumerators with
      | nil =>
          rw [writtenMembers_singleton, entries_singleton (by simpa using no_comma)
            (first.not_blank [' ']), resolveEntries_cons (first.ofText?_written (by simp))]
          rfl
      | cons next enumerators =>
          have split : ' ' :: (writtenMembers (enumerator :: next :: enumerators) ++ [' ']) =
              (' ' :: (enumerator.written ++ [])) ++
                ',' :: ' ' :: (writtenMembers (next :: enumerators) ++ [' ']) := by
            simp [writtenMembers_cons_cons]
          rw [split, entries_append_comma (by simpa using no_comma) (first.not_blank []),
            resolveEntries_cons (first.ofText?_written rfl), ih later]
          rfl

/-- A written enum resolves, and its values are what the written ones are read as. -/
theorem resolve_written {enum : Enum} (wellFormed : enum.IsWellFormed) :
    resolve enum.written =
      .ok { enum with enumerators := enum.enumerators.map Enumerator.reread } := by
  have split : enum.written = (BlockKind.enum.keyword ++ ' ' :: (enum.name ++ [' '])) ++
      '{' :: ((' ' :: (writtenMembers enum.enumerators ++ [' '])) ++ '}' :: [';']) := by
    simp [written]
  have named : name? enum.written = some enum.name := by
    have ended : ∀ c ∈ (' ' :: '{' :: ((' ' :: (writtenMembers enum.enumerators ++ [' '])) ++
        '}' :: [';'])).head?, Text.isWordChar c = false := by simp
    have front := name?_of_front (List.forall_mem_nil (· = ' ')) wellFormed.name ended
    rw [← front, split]
    simp
  have no_opening : '{' ∉ BlockKind.enum.keyword ++ ' ' :: (enum.name ++ [' ']) := by
    have no_word : Text.isWordChar '{' = false := by decide +kernel
    simpa [BlockKind.keyword] using wellFormed.name.notMem no_word
  have members_avoid : Avoids ['}', '\n'] (writtenMembers enum.enumerators) := by
    refine Text.avoids_intercalate (by decide) (List.forall_mem_map.mpr fun enumerator listed => ?_)
    exact (wellFormed.enumerators enumerator listed).avoids.mono (by decide)
  have avoids : Avoids ['}', '\n'] (' ' :: (writtenMembers enum.enumerators ++ [' '])) := by
    have space : Avoids ['}', '\n'] [' '] := by decide
    exact avoids_append.mpr ⟨space, avoids_append.mpr ⟨members_avoid, space⟩⟩
  rw [resolve_of_parts named split no_opening (avoids.notMem (by decide)),
    onOneLine_eq_self (avoids.notMem (by decide)), resolveEntries_written wellFormed.enumerators]
  rfl

/-! ## Reading everything back -/

theorem valueOf_eq_int_iff {text : Text} {value : Int} :
    valueOf text = .int value ↔ IntLiteral.parse? text = some value := by
  unfold valueOf
  split
  · next other read => simp [read]
  · next unread => simp [unread]

end Enum

/-- A value is read back unless it is an integer out of range. -/
theorem Enumerator.IsWellFormed.reread_eq_iff {enumerator : Enumerator}
    (wellFormed : enumerator.IsWellFormed) :
    enumerator.reread = enumerator ↔
      ∀ value ∈ enumerator.value.int?, IntLiteral.InRange value := by
  obtain ⟨name, value⟩ := enumerator
  simp only [reread, mk.injEq, true_and]
  cases value with
  | int value =>
      rw [EnumValue.written, Enum.valueOf_eq_int_iff, IntLiteral.parse?_ofInt_eq_some_iff]
      simp [EnumValue.int?]
  | expr text =>
      have expression := wellFormed.value text rfl
      simp [EnumValue.written, EnumValue.int?, Enum.valueOf, expression.no_literal]

namespace Enum

theorem IsWellFormed.resolve_written_iff {enum : Enum} (wellFormed : enum.IsWellFormed) :
    resolve enum.written = .ok enum ↔
      ∀ enumerator ∈ enum.enumerators, ∀ value ∈ enumerator.value.int?,
        IntLiteral.InRange value := by
  have same : resolve enum.written = .ok enum ↔
      enum.enumerators.map Enumerator.reread = enum.enumerators.map id := by
    rw [resolve_written wellFormed, List.map_id, Except.ok.injEq]
    obtain ⟨name, enumerators⟩ := enum
    simp
  rw [same, List.map_inj_left]
  exact forall₂_congr fun enumerator listed =>
    (wellFormed.enumerators enumerator listed).reread_eq_iff

/-- An enum that comes from a declaration is resolved again from its written form exactly if none of
its integers exceeds the largest literal. -/
theorem resolve_written_eq_iff {text : Text} {enum : Enum} (resolved : resolve text = .ok enum) :
    resolve enum.written = .ok enum ↔
      ∀ enumerator ∈ enum.enumerators, ∀ value, enumerator.value = .int value →
        value ≤ 0xFFFFFFFFFFFFFFFF := by
  obtain ⟨-, body, -, entries_resolved⟩ := exists_parts_of_resolve resolved
  have least := least_le_of_resolveEntries (by decide) entries_resolved
  rw [(isWellFormed_of_resolve resolved).resolve_written_iff]
  refine forall₂_congr fun enumerator listed => forall_congr' fun value => ?_
  rw [Option.mem_def, EnumValue.int?_eq_some_iff]
  constructor
  · intro in_range integer
    have upper := (in_range integer).2
    omega
  · intro bounded integer
    have lower := least enumerator listed value (EnumValue.int?_eq_some_iff.mpr integer)
    have upper := bounded integer
    exact ⟨lower, by omega⟩

/-- A declaration with the largest and the least literal, and with expressions that are empty or
begin with an equals sign. -/
def extremeEnum : Text :=
  "enum e { A = 0xFFFFFFFFFFFFFFFF, B == 1, C =, D = -0x8000000000000000, E };".toList

/-- The counter goes on behind the least literal, and all five values are read back. -/
theorem resolve_written_eq_iff_extremeEnum :
    ∃ enum, resolve extremeEnum = .ok enum ∧ resolve enum.written = .ok enum ∧
      enum.written = (r"enum e { A = 18446744073709551615, B = = 1, C = , " ++
        r"D = -9223372036854775808, E = -9223372036854775807 };").toList := by
  have resolved : resolve extremeEnum = .ok ⟨"e".toList, [⟨"A".toList, .int 0xFFFFFFFFFFFFFFFF⟩,
      ⟨"B".toList, .expr "= 1".toList⟩, ⟨"C".toList, .expr []⟩,
      ⟨"D".toList, .int (-0x8000000000000000)⟩, ⟨"E".toList, .int (-0x7FFFFFFFFFFFFFFF)⟩]⟩ := rfl
  exact ⟨_, resolved, (resolve_written_eq_iff resolved).mpr (by simp), rfl⟩

end Enum
end CHeader
