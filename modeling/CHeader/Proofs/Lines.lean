import Mathlib.Data.List.Induction
import Mathlib.Data.List.TakeWhile
import CHeader.Source.Normal

/-!
# Lines and their ends

Trimming removes the longest run of blanks at the end of a text.  A line of the normal form is a
trimmed line, so it is not empty, holds neither a tab nor a newline, and does not end in a blank.
-/

namespace CHeader
namespace Text

/-- What holds of the 128 ASCII characters holds of each character with an ASCII code. -/
theorem of_ascii {p : Char → Prop} (all : ∀ code : Fin 128, p (Char.ofNat code))
    {c : Char} (ascii : c.toNat < 128) : p c := by
  simpa only [Char.ofNat_toNat] using all ⟨c.toNat, ascii⟩

/-! ## Runs of characters -/

theorem takeWhile_append_eq_left {p : Char → Bool} {front back : Text}
    (inside : ∀ c ∈ front, p c = true) (outside : ∀ c ∈ back.head?, p c = false) :
    (front ++ back).takeWhile p = front := by
  rw [List.takeWhile_append_of_pos inside]
  cases back with
  | nil => simp
  | cons c back => simp [outside c rfl]

theorem dropWhile_append_eq_right {p : Char → Bool} {front back : Text}
    (inside : ∀ c ∈ front, p c = true) (outside : ∀ c ∈ back.head?, p c = false) :
    (front ++ back).dropWhile p = back := by
  rw [List.dropWhile_append_of_pos inside]
  cases back with
  | nil => simp
  | cons c back => simp [outside c rfl]

/-- The first character behind a dropped run does not belong to it. -/
theorem of_mem_head?_dropWhile {p : Char → Bool} {text : Text} {c : Char}
    (first : c ∈ (text.dropWhile p).head?) : p c = false := by
  have stops := List.head?_dropWhile_not p text
  rwa [Option.mem_def.mp first] at stops

/-! ## Blank texts -/

@[simp]
theorem isBlankText_nil : isBlankText [] = true := rfl

@[simp]
theorem isBlankText_cons (c : Char) (text : Text) :
    isBlankText (c :: text) = true ↔ isBlank c = true ∧ isBlankText text = true := by
  simp [isBlankText]

@[simp]
theorem isBlankText_append (front back : Text) :
    isBlankText (front ++ back) = true ↔ isBlankText front = true ∧ isBlankText back = true := by
  simp [isBlankText]

theorem isBlank_of_mem {text : Text} (blank : isBlankText text = true) {c : Char}
    (member : c ∈ text) : isBlank c = true :=
  List.all_eq_true.mp blank c member

/-- What holds of the members of the ranges of blanks holds of each blank. -/
theorem of_isBlank {p : Char → Prop}
    (all : ∀ range ∈ blanks, ∀ offset ≤ range.2 - range.1, p (Char.ofNat (range.1 + offset)))
    {c : Char} (blank : isBlank c = true) : p c := by
  have covered (ranges : List CodeRange) (covers : CodeRange.covers ranges c.toNat = true) :
      ∃ range ∈ ranges, range.1 ≤ c.toNat ∧ c.toNat ≤ range.2 := by
    induction ranges with
    | nil => simp [CodeRange.covers] at covers
    | cons range ranges ih =>
        simp only [CodeRange.covers] at covers
        split at covers
        · simp at covers
        · next inside =>
            rcases Bool.or_eq_true_iff.mp covers with last | later
            · exact ⟨range, List.mem_cons_self, Nat.le_of_not_lt inside, by simpa using last⟩
            · obtain ⟨other, listed, bounds⟩ := ih later
              exact ⟨other, List.mem_cons_of_mem range listed, bounds⟩
  obtain ⟨range, listed, first, last⟩ := covered blanks blank
  have found := all range listed (c.toNat - range.1) (by omega)
  rwa [Nat.add_sub_cancel' first, Char.ofNat_toNat] at found

@[simp]
theorem isBlank_newline : isBlank '\n' = true := by decide

@[simp]
theorem isBlank_tab : isBlank '\t' = true := by decide

@[simp]
theorem isBlank_space : isBlank ' ' = true := by decide

@[simp]
theorem isBlank_slash : isBlank '/' = false := by decide

@[simp]
theorem isBlank_star : isBlank '*' = false := by decide

@[simp]
theorem isBlank_backslash : isBlank '\\' = false := by decide

@[simp]
theorem isBlank_equals : isBlank '=' = false := by decide

theorem not_blank_of_getLast? {text : Text} {c : Char} (last : text.getLast? = some c)
    (solid : isBlank c = false) : ∀ d ∈ text.getLast?, isBlank d = false := by
  intro d other
  rw [last] at other
  exact Option.some.inj other ▸ solid

/-! ## Trimming the end -/

theorem trimEnd_cons_of_eq_nil {c : Char} {text : Text} (trimmed : trimEnd text = []) :
    trimEnd (c :: text) = if isBlank c then [] else [c] := by
  simp [trimEnd, trimmed]

theorem trimEnd_cons_of_ne_nil {c : Char} {text : Text} (kept : trimEnd text ≠ []) :
    trimEnd (c :: text) = c :: trimEnd text := by
  rw [trimEnd]
  split
  · next trimmed => exact absurd trimmed kept
  · next same => rw [same]

theorem trimEnd_cons_congr {left right : Text} (same : trimEnd left = trimEnd right) (c : Char) :
    trimEnd (c :: left) = trimEnd (c :: right) := by
  rw [trimEnd, trimEnd, same]

theorem exists_eq_trimEnd_append (text : Text) :
    ∃ trail, isBlankText trail = true ∧ text = trimEnd text ++ trail := by
  induction text with
  | nil => exact ⟨[], rfl, rfl⟩
  | cons c text ih =>
      obtain ⟨trail, blank, split⟩ := ih
      by_cases trimmed : trimEnd text = []
      · rw [trimEnd_cons_of_eq_nil trimmed]
        rw [trimmed, List.nil_append] at split
        by_cases blank_c : isBlank c = true
        · exact ⟨c :: trail, by simp [blank_c, blank], by simp [blank_c, split]⟩
        · exact ⟨trail, blank, by simp [blank_c, split]⟩
      · rw [trimEnd_cons_of_ne_nil trimmed]
        exact ⟨trail, blank, by rw [List.cons_append, ← split]⟩

/-- Trimmed text does not end in a blank. -/
theorem isBlank_getLast?_trimEnd {text : Text} {c : Char}
    (last : (trimEnd text).getLast? = some c) : isBlank c = false := by
  induction text with
  | nil => simp [trimEnd] at last
  | cons d text ih =>
      by_cases trimmed : trimEnd text = []
      · rw [trimEnd_cons_of_eq_nil trimmed] at last
        split at last
        · simp at last
        · next not_blank => simp_all
      · rw [trimEnd_cons_of_ne_nil trimmed] at last
        rw [List.getLast?_cons_of_ne_nil trimmed] at last
        exact ih last

theorem trimEnd_eq_self {text : Text}
    (no_blank : ∀ c, text.getLast? = some c → isBlank c = false) : trimEnd text = text := by
  obtain ⟨trail, blank, split⟩ := exists_eq_trimEnd_append text
  cases trail using List.reverseRecOn with
  | nil => simpa using split.symm
  | append_singleton trail c =>
      have last : text.getLast? = some c := by rw [split]; simp
      simp [no_blank c last] at blank

/-! ## Trimming both ends -/

theorem trimStart_eq_self {text : Text}
    (no_blank : ∀ c, text.head? = some c → isBlank c = false) : trimStart text = text := by
  cases text with
  | nil => rfl
  | cons c text => simp [trimStart, no_blank c rfl]

theorem trimStart_append {gap text : Text} (gap_blank : isBlankText gap = true)
    (solid : ∀ c ∈ text.head?, isBlank c = false) : trimStart (gap ++ text) = text :=
  dropWhile_append_eq_right (fun _ member => isBlank_of_mem gap_blank member) solid

theorem trimStart_cons_of_blank {c : Char} (blank : isBlank c = true) (text : Text) :
    trimStart (c :: text) = trimStart text := by
  simp [trimStart, blank]

theorem trim_cons_of_blank {c : Char} (blank : isBlank c = true) (text : Text) :
    trim (c :: text) = trim text := by
  rw [trim, trimStart_cons_of_blank blank, trim]

theorem trimEnd_append_blank {gap : Text} (blank : isBlankText gap = true) (text : Text) :
    trimEnd (text ++ gap) = trimEnd text := by
  induction text with
  | nil => simpa [trimEnd] using blank
  | cons c text ih => exact trimEnd_cons_congr ih c

theorem trim_append_blank {gap : Text} (blank : isBlankText gap = true) (text : Text) :
    trim (text ++ gap) = trim text := by
  rw [trim, trim, trimStart, trimStart, List.dropWhile_append]
  split
  · next all_blank =>
      have no_gap : gap.dropWhile isBlank = [] :=
        List.dropWhile_eq_nil_iff.mpr fun _ member => isBlank_of_mem blank member
      rw [no_gap, List.isEmpty_iff.mp all_blank]
  · exact trimEnd_append_blank blank _

theorem trim_eq_self {text : Text} (front : ∀ c, text.head? = some c → isBlank c = false)
    (back : ∀ c, text.getLast? = some c → isBlank c = false) : trim text = text := by
  rw [trim, trimStart_eq_self front, trimEnd_eq_self back]

theorem head?_trimEnd {text : Text} {c : Char} (first : (trimEnd text).head? = some c) :
    text.head? = some c := by
  obtain ⟨trail, -, split⟩ := exists_eq_trimEnd_append text
  obtain ⟨behind, same⟩ := List.head?_eq_some_iff.mp first
  rw [split, same]
  rfl

@[simp]
theorem trim_trim (text : Text) : trim (trim text) = trim text := by
  apply trim_eq_self
  · intro c first
    exact of_mem_head?_dropWhile (head?_trimEnd first)
  · intro c last
    exact isBlank_getLast?_trimEnd last

theorem trim_subset (text : Text) : trim text ⊆ text := by
  obtain ⟨trail, -, split⟩ := exists_eq_trimEnd_append (trimStart text)
  have front : trim text ⊆ trimStart text := by
    intro c member
    rw [split]
    exact List.mem_append_left trail member
  exact List.Subset.trans front (List.dropWhile_sublist isBlank).subset

theorem trimStart_of_trim {text : Text} (trimmed : trim text = text) :
    trimStart text = text := by
  obtain ⟨trail, -, split⟩ := exists_eq_trimEnd_append (trimStart text)
  rw [show trimEnd (trimStart text) = text from trimmed] at split
  have shorter : (trimStart text).length ≤ text.length :=
    (List.dropWhile_sublist isBlank).length_le
  have no_trail : trail = [] := by
    have total := congrArg List.length split
    rw [List.length_append] at total
    exact List.eq_nil_of_length_eq_zero (by omega)
  rw [split, no_trail, List.append_nil]

theorem isBlank_head?_of_trim {text : Text} (trimmed : trim text = text) {c : Char}
    (first : text.head? = some c) : isBlank c = false := by
  rw [← trimStart_of_trim trimmed] at first
  exact of_mem_head?_dropWhile first

theorem isBlank_getLast?_of_trim {text : Text} (trimmed : trim text = text) {c : Char}
    (last : text.getLast? = some c) : isBlank c = false := by
  rw [← trimmed] at last
  exact isBlank_getLast?_trimEnd last

/-! ## Pieces -/

/-- The pieces of a text hold its characters without the marks between them. -/
theorem mem_of_mem_splitOn {mark c : Char} {text piece : Text} (part : piece ∈ text.splitOn mark)
    (member : c ∈ piece) : c ∈ text ∧ c ≠ mark := by
  induction text generalizing piece with
  | nil => simp_all
  | cons d text ih =>
      rw [List.splitOn_cons_eq_if_modifyHead] at part
      split at part
      · rcases List.mem_cons.mp part with rfl | part
        · simp at member
        · exact (ih part member).imp_left (List.mem_cons_of_mem d)
      · next different =>
          obtain ⟨first, later, split⟩ := List.exists_cons_of_ne_nil (List.splitOn_ne_nil mark text)
          rw [split, List.modifyHead_cons] at part
          rcases List.mem_cons.mp part with rfl | part
          · rcases List.mem_cons.mp member with rfl | member
            · exact ⟨List.mem_cons_self, by simpa using different⟩
            · exact (ih (split ▸ List.mem_cons_self) member).imp_left (List.mem_cons_of_mem d)
          · exact (ih (split ▸ List.mem_cons_of_mem first part) member).imp_left
              (List.mem_cons_of_mem d)

/-- The lines, each behind a newline. -/
def broken (lines : List Text) : Text :=
  lines.flatMap fun line => '\n' :: line

@[simp]
theorem broken_nil : broken [] = [] := rfl

@[simp]
theorem broken_cons (line : Text) (lines : List Text) :
    broken (line :: lines) = '\n' :: (line ++ broken lines) := rfl

theorem broken_eq_cons_ofLines {lines : List Text} (nonempty : lines ≠ []) :
    broken lines = '\n' :: ofLines lines := by
  induction lines with
  | nil => exact absurd rfl nonempty
  | cons line lines ih =>
      cases lines with
      | nil => simp [ofLines]
      | cons next lines =>
          rw [broken_cons, ih (by simp), ofLines, ofLines, List.intercalate_cons_cons]
          simp

theorem ofLines_cons (line : Text) (lines : List Text) :
    ofLines (line :: lines) = line ++ broken lines :=
  (List.cons.inj (broken_eq_cons_ofLines (List.cons_ne_nil line lines))).2.symm

theorem eq_newline_or_mem_of_mem_ofLines {lines : List Text} {c : Char}
    (member : c ∈ ofLines lines) : c = '\n' ∨ ∃ line ∈ lines, c ∈ line := by
  cases lines with
  | nil => simp [ofLines] at member
  | cons line lines =>
      have broken_member : c ∈ broken (line :: lines) := by
        rw [broken_eq_cons_ofLines (List.cons_ne_nil line lines)]
        exact List.mem_cons_of_mem '\n' member
      obtain ⟨other, listed, inside⟩ := List.mem_flatMap.mp broken_member
      exact (List.mem_cons.mp inside).imp_right fun within => ⟨other, listed, within⟩

end Text

namespace Source

/-! ## Clean lines -/

/-- A tab becomes a space; no other character changes. -/
def untab (c : Char) : Char :=
  if c = '\t' then ' ' else c

theorem cleanLine_eq (line : Text) : cleanLine line = Text.trimEnd (line.map untab) := rfl

theorem untab_ne_tab (c : Char) : untab c ≠ '\t' := by
  unfold untab
  split
  · decide
  · assumption

theorem untab_eq_newline_iff {c : Char} : untab c = '\n' ↔ c = '\n' := by
  unfold untab
  split
  · next tab => simp [tab]
  · rfl

theorem isBlank_untab (c : Char) : Text.isBlank (untab c) = Text.isBlank c := by
  unfold untab
  split
  · next tab => rw [tab]; decide
  · rfl

theorem isBlankText_map_untab (text : Text) :
    Text.isBlankText (text.map untab) = Text.isBlankText text := by
  simp [Text.isBlankText, Function.comp_def, isBlank_untab]

theorem cleanLine_eq_nil_iff {line : Text} :
    cleanLine line = [] ↔ Text.isBlankText line = true := by
  rw [cleanLine_eq, Text.trimEnd_eq_nil_iff, isBlankText_map_untab]

/-- A clean line is the front of a line up to its trailing blanks, with its tabs replaced. -/
theorem exists_cleanLine_eq_map (line : Text) :
    ∃ core trail, Text.isBlankText trail = true ∧ line = core ++ trail ∧
      cleanLine line = core.map untab := by
  obtain ⟨trail, blank, split⟩ := Text.exists_eq_trimEnd_append (line.map untab)
  obtain ⟨core, back, rfl, core_eq, back_eq⟩ := List.map_eq_append_iff.mp split
  refine ⟨core, back, ?_, rfl, core_eq.symm⟩
  rwa [← isBlankText_map_untab, back_eq]

/-- The lines that are not blank, cleaned. -/
def tidyLines (lines : List Text) : List Text :=
  (lines.map cleanLine).filter fun line => !line.isEmpty

theorem normalLines_eq (text : Text) :
    normalLines text = tidyLines ((stripComments text).splitOn '\n') := rfl

@[simp]
theorem tidyLines_append (front back : List Text) :
    tidyLines (front ++ back) = tidyLines front ++ tidyLines back := by
  simp [tidyLines]

theorem tidyLines_cons_of_blank {line : Text} (blank : Text.isBlankText line = true)
    (lines : List Text) : tidyLines (line :: lines) = tidyLines lines := by
  simp [tidyLines, cleanLine_eq_nil_iff.mpr blank]

theorem tidyLines_cons_of_not_blank {line : Text} (kept : Text.isBlankText line = false)
    (lines : List Text) : tidyLines (line :: lines) = cleanLine line :: tidyLines lines := by
  have nonempty : cleanLine line ≠ [] := fun empty => by
    simp [cleanLine_eq_nil_iff.mp empty] at kept
  simp [tidyLines, nonempty]

theorem tidyLines_eq_nil {lines : List Text}
    (blank : ∀ line ∈ lines, Text.isBlankText line = true) : tidyLines lines = [] := by
  induction lines with
  | nil => rfl
  | cons line lines ih =>
      rw [tidyLines_cons_of_blank (blank line List.mem_cons_self)]
      exact ih fun other member => blank other (List.mem_cons_of_mem line member)

/-! ## Lines of the normal form -/

/-- What a line of the normal form looks like. -/
structure IsTidyLine (line : Text) : Prop where
  nonempty : line ≠ []
  no_newline : '\n' ∉ line
  no_tab : '\t' ∉ line
  solid_end : ∀ c, line.getLast? = some c → Text.isBlank c = false

theorem isTidyLine_cleanLine {line : Text} (no_newline : '\n' ∉ line)
    (nonempty : cleanLine line ≠ []) : IsTidyLine (cleanLine line) where
  nonempty := nonempty
  no_newline member := by
    obtain ⟨core, trail, -, rfl, clean⟩ := exists_cleanLine_eq_map line
    obtain ⟨c, inside, same⟩ := List.mem_map.mp (clean ▸ member)
    obtain rfl := untab_eq_newline_iff.mp same
    exact no_newline (List.mem_append_left trail inside)
  no_tab member := by
    obtain ⟨core, trail, -, rfl, clean⟩ := exists_cleanLine_eq_map line
    obtain ⟨c, inside, same⟩ := List.mem_map.mp (clean ▸ member)
    exact untab_ne_tab c same
  solid_end c last := Text.isBlank_getLast?_trimEnd last

theorem isTidyLine_of_mem_normalLines {text line : Text} (member : line ∈ normalLines text) :
    IsTidyLine line := by
  obtain ⟨cleaned, nonempty⟩ := List.mem_filter.mp member
  obtain ⟨piece, part, rfl⟩ := List.mem_map.mp cleaned
  exact isTidyLine_cleanLine (fun newline => (Text.mem_of_mem_splitOn part newline).2 rfl)
    (by simpa using nonempty)

theorem IsTidyLine.cleanLine_eq_self {line : Text} (tidy : IsTidyLine line) :
    cleanLine line = line := by
  have unchanged : ∀ c ∈ line, untab c = id c := fun c member =>
    if_neg fun tab : c = '\t' => tidy.no_tab (tab ▸ member)
  have no_change : line.map untab = line := (List.map_congr_left unchanged).trans (List.map_id line)
  rw [cleanLine_eq, no_change, Text.trimEnd_eq_self tidy.solid_end]

theorem tidyLines_eq_self {lines : List Text} (tidy : ∀ line ∈ lines, IsTidyLine line) :
    tidyLines lines = lines := by
  induction lines with
  | nil => rfl
  | cons line lines ih =>
      obtain ⟨tidy_line, tidy⟩ := List.forall_mem_cons.mp tidy
      have kept : Text.isBlankText line = false := by
        rw [← Bool.not_eq_true, ← cleanLine_eq_nil_iff, tidy_line.cleanLine_eq_self]
        exact tidy_line.nonempty
      rw [tidyLines_cons_of_not_blank kept, tidy_line.cleanLine_eq_self, ih tidy]

end Source
end CHeader
