import Mathlib.Data.List.Chain
import CHeader.Proofs.Blocks
import CHeader.Proofs.Lines

/-!
# The lines of a block

In the normal form every line break stands behind a character that is not blank.  This carries over
to each part of the normal form, and with it the shape of the lines: a block begins and ends with
characters that are not blank, so all its lines are as those of the normal form.
-/

namespace CHeader
namespace Source

/-! ## Line breaks of the normal form -/

/-- A line break does not stand behind a blank. -/
def SolidBreak (left right : Char) : Prop :=
  right = '\n' → Text.isBlank left = false

theorem isChain_solidBreak_of_one_line {line : Text} (one_line : '\n' ∉ line) :
    line.IsChain SolidBreak := by
  have apart : ∀ left ∈ line, ∀ right ∈ line, SolidBreak left right := by
    intro left _ right member newline
    exact absurd (newline ▸ member) one_line
  exact (List.pairwise_of_forall_mem_list apart).isChain

theorem isChain_append_broken {lines : List Text} (tidy : ∀ line ∈ lines, IsTidyLine line)
    {front : Text} (chain : front.IsChain SolidBreak)
    (solid : ∀ c ∈ front.getLast?, Text.isBlank c = false) :
    (front ++ Text.broken lines).IsChain SolidBreak := by
  induction lines generalizing front with
  | nil => simpa using chain
  | cons line lines ih =>
      obtain ⟨tidy_line, tidy⟩ := List.forall_mem_cons.mp tidy
      have line_chain : ('\n' :: line).IsChain SolidBreak := by
        refine (isChain_solidBreak_of_one_line tidy_line.no_newline).cons fun c first newline => ?_
        exact absurd (newline ▸ List.mem_of_mem_head? first) tidy_line.no_newline
      have front_chain : (front ++ '\n' :: line).IsChain SolidBreak :=
        chain.append line_chain fun c last _ _ _ => solid c last
      have front_solid : ∀ c ∈ (front ++ '\n' :: line).getLast?, Text.isBlank c = false := by
        intro c last
        rw [List.getLast?_append_of_ne_nil _ (List.cons_ne_nil '\n' line),
          List.getLast?_cons_of_ne_nil tidy_line.nonempty] at last
        exact tidy_line.solid_end c last
      have whole := ih tidy front_chain front_solid
      rwa [List.append_assoc] at whole

theorem isChain_normalize (text : Text) : (normalize text).IsChain SolidBreak := by
  have tidy : ∀ line ∈ normalLines text, IsTidyLine line := fun _ => isTidyLine_of_mem_normalLines
  rw [normalize]
  generalize normalLines text = lines at tidy
  cases lines with
  | nil => simp [Text.ofLines]
  | cons line lines =>
      obtain ⟨tidy_line, tidy⟩ := List.forall_mem_cons.mp tidy
      rw [Text.ofLines_cons]
      exact isChain_append_broken tidy (isChain_solidBreak_of_one_line tidy_line.no_newline)
        tidy_line.solid_end

theorem tab_notMem_normalize (text : Text) : '\t' ∉ normalize text := by
  intro member
  rcases Text.eq_newline_or_mem_of_mem_ofLines member with newline | ⟨line, listed, inside⟩
  · simp at newline
  · exact (isTidyLine_of_mem_normalLines listed).no_tab inside

/-! ## Lines of a part of the normal form -/

theorem isTidyLine_singleton {c : Char} (solid : Text.isBlank c = false) : IsTidyLine [c] where
  nonempty := by simp
  no_newline := by
    rw [List.mem_singleton]
    rintro rfl
    simp at solid
  no_tab := by
    rw [List.mem_singleton]
    rintro rfl
    simp at solid
  solid_end d last := by
    obtain rfl : c = d := by simpa using last
    exact solid

theorem IsTidyLine.cons {c : Char} {line : Text} (not_newline : c ≠ '\n') (not_tab : c ≠ '\t')
    (tidy : IsTidyLine line) : IsTidyLine (c :: line) where
  nonempty := List.cons_ne_nil c line
  no_newline := List.not_mem_cons_of_ne_of_not_mem (Ne.symm not_newline) tidy.no_newline
  no_tab := List.not_mem_cons_of_ne_of_not_mem (Ne.symm not_tab) tidy.no_tab
  solid_end d last := by
    rw [List.getLast?_cons_of_ne_nil tidy.nonempty] at last
    exact tidy.solid_end d last

/-- If no line break stands behind a blank and the end is not blank, then all lines are tidy but for
an empty first one. -/
theorem exists_lines_of_isChain {text : Text} (nonempty : text ≠ []) (no_tab : '\t' ∉ text)
    (chain : text.IsChain SolidBreak) (solid_end : ∀ c ∈ text.getLast?, Text.isBlank c = false) :
    ∃ line later, text.splitOn '\n' = line :: later ∧ (∀ other ∈ later, IsTidyLine other) ∧
      (line = [] ∧ text.head? = some '\n' ∨ IsTidyLine line ∧ text.head? ≠ some '\n') := by
  induction text with
  | nil => exact absurd rfl nonempty
  | cons c text ih =>
      rw [List.splitOn_cons_eq_if_modifyHead]
      by_cases last : text = []
      · subst last
        have solid : Text.isBlank c = false := solid_end c rfl
        have not_newline : c ≠ '\n' := by
          rintro rfl
          simp at solid
        refine ⟨[c], [], by simp [not_newline], by simp, .inr ?_⟩
        exact ⟨isTidyLine_singleton solid, by simpa using not_newline⟩
      · rw [List.getLast?_cons_of_ne_nil last] at solid_end
        rw [List.mem_cons, not_or] at no_tab
        obtain ⟨seam, chain⟩ := List.isChain_cons.mp chain
        obtain ⟨line, later, split, tidy_later, first⟩ := ih last no_tab.2 chain solid_end
        rw [split]
        by_cases newline : c = '\n'
        · subst newline
          refine ⟨[], line :: later, by simp, List.forall_mem_cons.mpr ⟨?_, tidy_later⟩,
            .inl ⟨rfl, rfl⟩⟩
          rcases first with ⟨-, break_next⟩ | ⟨tidy, -⟩
          · simpa using seam '\n' break_next rfl
          · exact tidy
        · have no_break : (c :: text).head? ≠ some '\n' := by simpa using newline
          refine ⟨c :: line, later, by simp [newline], tidy_later, .inr ⟨?_, no_break⟩⟩
          rcases first with ⟨rfl, break_next⟩ | ⟨tidy, -⟩
          · exact isTidyLine_singleton (seam '\n' break_next rfl)
          · exact tidy.cons newline (Ne.symm no_tab.1)

theorem isTidyLine_of_mem_splitOn {text line : Text} (no_tab : '\t' ∉ text)
    (chain : text.IsChain SolidBreak) (solid_front : ∀ c ∈ text.head?, Text.isBlank c = false)
    (solid_end : ∀ c ∈ text.getLast?, Text.isBlank c = false) (nonempty : text ≠ [])
    (member : line ∈ text.splitOn '\n') : IsTidyLine line := by
  obtain ⟨first, later, split, tidy_later, front⟩ :=
    exists_lines_of_isChain nonempty no_tab chain solid_end
  rw [split] at member
  rcases List.mem_cons.mp member with rfl | member
  · rcases front with ⟨-, newline⟩ | ⟨tidy, -⟩
    · simpa using solid_front '\n' newline
    · exact tidy
  · exact tidy_later line member

end Source

namespace Block

/-- The lines of a block that was found in the normal form are like those of the normal form. -/
theorem isTidyLine_of_mem_lines {kind : BlockKind} {text line : Text} {block : Block}
    (found : block ∈ ofHeader kind text) (member : line ∈ block.text.splitOn '\n') :
    Source.IsTidyLine line := by
  obtain ⟨parts, -, rfl, inside⟩ := exists_parts_of_mem_search found
  have no_tab : '\t' ∉ (parts.toBlock kind).text := fun tab =>
    Source.tab_notMem_normalize text (inside.subset tab)
  have chain : (parts.toBlock kind).text.IsChain Source.SolidBreak := by
    have whole := Source.isChain_normalize text
    obtain ⟨before, behind, split⟩ := inside
    rw [← split] at whole
    exact whole.left_of_append.right_of_append
  have front : (parts.toBlock kind).text.head? = kind.keyword.head? := by
    cases kind <;> rfl
  have back : (parts.toBlock kind).text.getLast? = some ';' := by
    rw [BlockParts.toBlock_text, List.getLast?_append_of_ne_nil _ (by simp)]
    rfl
  have solid_front : ∀ c ∈ (parts.toBlock kind).text.head?, Text.isBlank c = false := by
    intro c first
    rw [front] at first
    cases kind <;> obtain rfl := Option.some.inj first <;> decide
  have nonempty : (parts.toBlock kind).text ≠ [] := fun empty => by simp [empty] at back
  exact Source.isTidyLine_of_mem_splitOn no_tab chain solid_front
    (Text.not_blank_of_getLast? back (by decide)) nonempty member

end Block
end CHeader
