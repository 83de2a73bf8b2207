import CHeader.Proofs.Respacing

/-!
# The normal form is a fixed point

The normal form of a text is, but for the newline that separates it from the text in front, a
respacing of the stripped text.  Stripping and cleaning both respect respacing, so the normal form
of the normal form is the same; and since neither step ever adds a character, stripping alone
leaves it as it is.
-/

namespace CHeader
namespace Source

open Text Token

/-! ## Cleaning respaced texts -/

theorem blank_of_mem_splitOn {text line : Text} (blank : isBlankText text = true)
    (part : line ∈ text.splitOn '\n') : isBlankText line = true :=
  List.all_eq_true.mpr fun _ member => isBlank_of_mem blank (mem_of_mem_splitOn part member).1

theorem exists_lines_of_isBlankText {text : Text} (blank : isBlankText text = true) :
    ∃ line later, text.splitOn '\n' = line :: later ∧ cleanLine line = [] ∧
      tidyLines later = [] := by
  obtain ⟨line, later, split⟩ := List.exists_cons_of_ne_nil (List.splitOn_ne_nil '\n' text)
  have lines_blank (other : Text) (member : other ∈ line :: later) :=
    blank_of_mem_splitOn blank (split ▸ member)
  obtain ⟨line_blank, later_blank⟩ := List.forall_mem_cons.mp lines_blank
  exact ⟨line, later, split, cleanLine_eq_nil_iff.mpr line_blank, tidyLines_eq_nil later_blank⟩

theorem tidyLines_cons_congr {line line' : Text} {later later' : List Text}
    (lines : cleanLine line = cleanLine line') (laters : tidyLines later = tidyLines later') :
    tidyLines (line :: later) = tidyLines (line' :: later') := by
  simp only [tidyLines] at laters ⊢
  rw [List.map_cons, List.map_cons, List.filter_cons, List.filter_cons, lines, laters]

/-- Respaced texts have the same clean lines. -/
theorem Respaced.cleanLines {left right : Text} (respaced : Respaced left right) :
    ∃ line line' later later', left.splitOn '\n' = line :: later ∧
      right.splitOn '\n' = line' :: later' ∧ cleanLine line = cleanLine line' ∧
      tidyLines later = tidyLines later' := by
  -- The induction adds characters to the first line, which therefore stands apart.
  induction respaced with
  | @blank left right left_blank right_blank =>
      obtain ⟨line, later, left_eq, line_blank, later_blank⟩ :=
        exists_lines_of_isBlankText left_blank
      obtain ⟨line', later', right_eq, line_blank', later_blank'⟩ :=
        exists_lines_of_isBlankText right_blank
      exact ⟨line, line', later, later', left_eq, right_eq, line_blank.trans line_blank'.symm,
        later_blank.trans later_blank'.symm⟩
  | @char c d left right same behind ih =>
      obtain ⟨line, line', later, later', left_eq, right_eq, lines, laters⟩ := ih
      have newline : c = '\n' ↔ d = '\n' := newline_iff_of_untab_eq same
      rw [List.splitOn_cons_eq_if_modifyHead, List.splitOn_cons_eq_if_modifyHead, left_eq, right_eq]
      by_cases ends : c = '\n'
      · refine ⟨[], [], line :: later, line' :: later', by simp [ends], by simp [newline.mp ends],
          rfl, tidyLines_cons_congr lines laters⟩
      · have ends' : d ≠ '\n' := fun hit => ends (newline.mpr hit)
        refine ⟨c :: line, d :: line', later, later', by simp [ends], by simp [ends'], ?_, laters⟩
        rw [cleanLine_eq, cleanLine_eq, List.map_cons, List.map_cons, same]
        exact trimEnd_cons_congr lines (untab d)
  | @lineBreak gap gap' left right gap_blank gap_blank' behind ih =>
      obtain ⟨line, line', later, later', left_eq, right_eq, lines, laters⟩ := ih
      obtain ⟨first, gaps, gap_eq, first_blank, gaps_blank⟩ :=
        exists_lines_of_isBlankText gap_blank
      obtain ⟨first', gaps', gap_eq', first_blank', gaps_blank'⟩ :=
        exists_lines_of_isBlankText gap_blank'
      refine ⟨first, first', gaps ++ line :: later, gaps' ++ line' :: later', ?_, ?_,
        first_blank.trans first_blank'.symm, ?_⟩
      · rw [List.splitOn_append_cons_self, gap_eq, left_eq, List.cons_append]
      · rw [List.splitOn_append_cons_self, gap_eq', right_eq, List.cons_append]
      · rw [tidyLines_append, tidyLines_append, gaps_blank, gaps_blank',
          tidyLines_cons_congr lines laters]

theorem Respaced.tidyLines_splitOn {left right : Text} (respaced : Respaced left right) :
    tidyLines (left.splitOn '\n') = tidyLines (right.splitOn '\n') := by
  obtain ⟨line, line', later, later', left_eq, right_eq, lines, laters⟩ := respaced.cleanLines
  rw [left_eq, right_eq, tidyLines_cons_congr lines laters]

theorem Respaced.normalLines_eq {left right : Text} (respaced : Respaced left right) :
    normalLines left = normalLines right :=
  respaced.stripComments.tidyLines_splitOn

/-! ## Cleaning is respacing -/

theorem Respaced.map_untab_append {left right : Text} (behind : Respaced left right)
    (front : Text) : Respaced (front ++ left) (front.map untab ++ right) := by
  induction front with
  | nil => exact behind
  | cons c front ih =>
      have same : untab c = untab (untab c) := by
        unfold untab
        split <;> simp_all
      exact .char same ih

/-- Blanks in front of a line break change nothing. -/
theorem Respaced.blank_append_broken {lines lines' : List Text} {trail : Text}
    (trail_blank : isBlankText trail = true)
    (behind : Respaced (broken lines) (broken lines')) :
    Respaced (trail ++ broken lines) (broken lines') := by
  generalize left_eq : broken lines = left at behind ⊢
  generalize right_eq : broken lines' = right at behind ⊢
  cases behind with
  | blank left_blank right_blank =>
      exact .blank ((isBlankText_append trail _).mpr ⟨trail_blank, left_blank⟩) right_blank
  | @char c d left right same behind =>
      obtain rfl : c = '\n' := by
        cases lines with
        | nil => simp at left_eq
        | cons line lines => exact (List.cons.inj left_eq).1.symm
      obtain rfl : d = '\n' := (newline_iff_of_untab_eq same).mp rfl
      have no_gap : isBlankText [] = true := rfl
      exact .lineBreak trail_blank no_gap behind
  | @lineBreak gap gap' left right gap_blank gap_blank' behind =>
      rw [← List.append_assoc]
      have joined_blank := (isBlankText_append trail gap).mpr ⟨trail_blank, gap_blank⟩
      exact .lineBreak joined_blank gap_blank' behind

theorem respaced_broken_tidyLines (lines : List Text) :
    Respaced (broken lines) (broken (tidyLines lines)) := by
  induction lines with
  | nil => exact .blank rfl rfl
  | cons line lines ih =>
      rw [broken_cons]
      cases blank : isBlankText line with
      | true =>
          rw [tidyLines_cons_of_blank blank, ← List.cons_append]
          exact Respaced.blank_append_broken (by simpa using blank) ih
      | false =>
          obtain ⟨core, trail, trail_blank, rfl, clean⟩ := exists_cleanLine_eq_map line
          rw [tidyLines_cons_of_not_blank blank, broken_cons, clean, List.append_assoc]
          exact .char rfl ((ih.blank_append_broken trail_blank).map_untab_append core)

/-! ## Fixed points -/

@[simp]
theorem normalLines_nil : normalLines [] = [] := by
  simp [normalLines_eq, tidyLines, cleanLine, Text.trimEnd]

@[simp]
theorem normalize_nil : normalize [] = [] := by
  simp [normalize, Text.ofLines]

theorem normalLines_normalize (text : Text) : normalLines (normalize text) = normalLines text := by
  rw [normalLines_eq, normalize]
  by_cases empty : normalLines text = []
  · rw [empty]
    exact normalLines_nil
  · -- The newline in front takes in the blank lines that the normal form drops at the beginning.
    have newline (behind : Text) :
        tidyLines (('\n' :: behind).splitOn '\n') = tidyLines (behind.splitOn '\n') := by
      rw [List.splitOn_cons_eq_if_modifyHead, if_pos (beq_self_eq_true '\n')]
      exact tidyLines_cons_of_blank rfl _
    have respaced := respaced_broken_tidyLines ((stripComments text).splitOn '\n')
    rw [← normalLines_eq, broken_eq_cons_ofLines (List.splitOn_ne_nil _ _),
      broken_eq_cons_ofLines empty, ofLines, List.intercalate_splitOn] at respaced
    have cleaned := respaced.stripComments.tidyLines_splitOn
    rw [stripComments_newline, stripComments_newline, newline, newline,
      stripComments_stripComments] at cleaned
    exact cleaned.symm

theorem length_broken_tidyLines_le (lines : List Text) :
    (broken (tidyLines lines)).length ≤ (broken lines).length := by
  induction lines with
  | nil => rfl
  | cons line lines ih =>
      cases blank : isBlankText line with
      | true =>
          rw [tidyLines_cons_of_blank blank, broken_cons, List.length_cons, List.length_append]
          omega
      | false =>
          obtain ⟨core, trail, trail_blank, rfl, clean⟩ := exists_cleanLine_eq_map line
          rw [tidyLines_cons_of_not_blank blank, broken_cons, broken_cons, clean]
          simp only [List.length_cons, List.length_append, List.length_map]
          omega

theorem length_normalize_le (text : Text) :
    (normalize text).length ≤ (stripComments text).length := by
  have bound := length_broken_tidyLines_le ((stripComments text).splitOn '\n')
  rw [← normalLines_eq, broken_eq_cons_ofLines (List.splitOn_ne_nil _ _), ofLines,
    List.intercalate_splitOn] at bound
  rw [normalize]
  by_cases empty : normalLines text = []
  · simp [empty, ofLines]
  · rw [broken_eq_cons_ofLines empty] at bound
    simpa using bound

theorem stripComments_sublist (text : Text) : (stripComments text).Sublist text := by
  induction text using scan_induction with
  | nil => simp
  | token c text token rest reads ih =>
      have whole := reads.source_append
      cases kind : token.isComment with
      | true =>
          rw [stripComments_comment reads kind, ← whole]
          exact ih.trans (List.sublist_append_right token.source rest)
      | false =>
          rw [stripComments_kept reads kind, ← whole]
          exact ih.append_left token.source

/-- Stripping comments and normalizing a normal form both leave it as it is, and stripping comments
twice does no more than stripping them once. -/
theorem normalize_isFixed (text : Text) :
    stripComments (normalize text) = normalize text ∧
      normalize (normalize text) = normalize text ∧
      stripComments (stripComments text) = stripComments text := by
  have again : normalize (normalize text) = normalize text := by
    rw [normalize, normalLines_normalize, ← normalize]
  refine ⟨?_, again, stripComments_stripComments text⟩
  have bound := length_normalize_le (normalize text)
  rw [again] at bound
  exact (stripComments_sublist (normalize text)).eq_of_length_le bound

end Source
end CHeader
