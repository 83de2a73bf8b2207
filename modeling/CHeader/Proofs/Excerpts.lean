import CHeader.Proofs.NormalForm

/-!
# Excerpts

What the extractors keep of a text are parts of it in their order, with a blank wherever something
is left out.  No slash and no star gets a new neighbour there that makes it the mark of a comment,
so an excerpt of a text without comments and quotes has no comments either.
-/

namespace CHeader
namespace Source

open Token

/-- The second text has characters of the first one in their order, and a blank wherever it leaves
out something. -/
inductive Excerpt : Text → Text → Prop where
  | nil {skipped : Text} : Excerpt skipped []
  | char {c : Char} {text kept : Text} (behind : Excerpt text kept) :
      Excerpt (c :: text) (c :: kept)
  | blank {b : Char} {text kept : Text} (skipped : Text) (is_blank : Text.isBlank b = true)
      (behind : Excerpt text kept) : Excerpt (skipped ++ text) (b :: kept)

/-- A text without quotes of which the scanner reads all characters on their own. -/
inductive IsPlain : Text → Prop where
  | nil : IsPlain []
  | cons {c : Char} {text : Text} (no_quote : isQuote c = false)
      (reads : Reads c text (plain c) text) (behind : IsPlain text) : IsPlain (c :: text)

/-! ## Plain texts -/

theorem IsPlain.of_append {front back : Text} (is_plain : IsPlain (front ++ back)) :
    IsPlain back := by
  induction front with
  | nil => exact is_plain
  | cons c front ih =>
      cases is_plain with
      | cons no_quote reads behind => exact ih behind

theorem IsPlain.stripComments_eq {text : Text} (is_plain : IsPlain text) :
    stripComments text = text := by
  induction is_plain with
  | nil => exact stripComments_nil
  | cons no_quote reads behind ih =>
      rw [stripComments_kept reads rfl, ih]
      rfl

/-- A text without quotes that has no comments is plain. -/
theorem isPlain_of_stripComments_eq {text : Text} (no_quote : ∀ c ∈ text, isQuote c = false)
    (stripped : stripComments text = text) : IsPlain text := by
  induction text using scan_induction with
  | nil => exact .nil
  | token c text token rest reads ih =>
      cases kind : token.isComment with
      | true =>
          have shorter := (stripComments_sublist rest).length_le.trans reads.length_le
          rw [← stripComments_comment reads kind, stripped, List.length_cons] at shorter
          exact absurd shorter (Nat.not_succ_le_self text.length)
      | false =>
          cases reads with
          | lineComment => simp [isComment] at kind
          | blockComment => simp [isComment] at kind
          | literal opens found => simp [no_quote c List.mem_cons_self] at opens
          | plain no_literal no_line_comment no_block_comment =>
              have reads := Reads.plain no_literal no_line_comment no_block_comment
              rw [stripComments_kept reads rfl] at stripped
              obtain ⟨first_no_quote, no_quote⟩ := List.forall_mem_cons.mp no_quote
              exact .cons first_no_quote reads (ih no_quote (List.cons.inj stripped).2)

/-! ## Excerpts of plain texts -/

namespace Excerpt

variable {text kept : Text}

theorem append (behind : Excerpt text kept) (front : Text) :
    Excerpt (front ++ text) (front ++ kept) := by
  induction front with
  | nil => exact behind
  | cons c front ih => exact .char ih

theorem exists_of_cons {c : Char} (excerpt : Excerpt text (c :: kept))
    (solid : Text.isBlank c = false) : ∃ later, text = c :: later ∧ Excerpt later kept := by
  cases excerpt with
  | @char _ later _ behind => exact ⟨later, rfl, behind⟩
  | blank skipped is_blank behind => simp [solid] at is_blank

/-- An excerpt does not close a block comment that stays open. -/
theorem blockBody?_eq_none (excerpt : Excerpt text kept) (still_open : blockBody? text = none) :
    blockBody? kept = none := by
  rw [blockBody?_eq_none_iff] at still_open ⊢
  induction excerpt with
  | nil => exact .nil
  | @char c text kept behind ih =>
      obtain ⟨seam, still_open⟩ := List.isChain_cons.mp still_open
      refine (ih still_open).cons fun d first ends => ?_
      obtain ⟨rfl, rfl⟩ := ends
      obtain ⟨kept, rfl⟩ := List.head?_eq_some_iff.mp first
      obtain ⟨later, rfl, -⟩ := behind.exists_of_cons Text.isBlank_slash
      exact seam '/' rfl ⟨rfl, rfl⟩
  | @blank b text kept skipped is_blank behind ih =>
      refine (ih still_open.right_of_append).cons fun d _ ends => ?_
      simp [ends.1] at is_blank

/-- A character that is read on its own is so in an excerpt, too. -/
theorem reads_plain {c : Char} (excerpt : Excerpt text kept) (no_quote : isQuote c = false)
    (reads : Reads c text (plain c) text) : Reads c kept (plain c) kept := by
  have no_literal : isQuote c = true → literalBody? c kept = none := fun opens => by
    simp [no_quote] at opens
  cases reads with
  | plain _ no_line_comment no_block_comment =>
      refine .plain no_literal (fun slash first => ?_) fun inner slash star => ?_
      · obtain ⟨kept, rfl⟩ := List.head?_eq_some_iff.mp first
        obtain ⟨later, rfl, -⟩ := excerpt.exists_of_cons Text.isBlank_slash
        exact no_line_comment slash rfl
      · subst star
        obtain ⟨later, rfl, behind⟩ := excerpt.exists_of_cons Text.isBlank_star
        exact behind.blockBody?_eq_none (no_block_comment later slash rfl)

/-- An excerpt of a plain text is plain. -/
theorem isPlain (excerpt : Excerpt text kept) (is_plain : IsPlain text) : IsPlain kept := by
  induction excerpt with
  | nil => exact .nil
  | char behind ih =>
      cases is_plain with
      | cons no_quote reads later =>
          exact .cons no_quote (behind.reads_plain no_quote reads) (ih later)
  | @blank b text kept skipped is_blank behind ih =>
      have no_quote : isQuote b = false := by
        by_contra quote
        simp [not_blank_of_isQuote (by simpa using quote)] at is_blank
      exact .cons no_quote (reads_of_isBlank is_blank kept) (ih is_plain.of_append)

end Excerpt

/-! ## The normal form -/

theorem Excerpt.map_untab_append {text kept : Text} (behind : Excerpt text kept) (front : Text) :
    Excerpt (front ++ text) (front.map untab ++ kept) := by
  induction front with
  | nil => exact behind
  | cons c front ih =>
      rw [List.cons_append, List.map_cons, List.cons_append, untab]
      split
      · exact .blank [c] Text.isBlank_space ih
      · exact .char ih

/-- Cleaning leaves out blanks at the ends of lines and lines that are blank. -/
theorem excerpt_broken_tidyLines (skipped : Text) (lines : List Text) :
    Excerpt (skipped ++ Text.broken lines) (Text.broken (tidyLines lines)) := by
  -- A blank line is left out together with what was left out in front of it.
  induction lines generalizing skipped with
  | nil => exact .nil
  | cons line lines ih =>
      cases blank : Text.isBlankText line with
      | true =>
          have later := ih (skipped ++ '\n' :: line)
          rw [List.append_assoc, List.cons_append] at later
          rw [tidyLines_cons_of_blank blank, Text.broken_cons]
          exact later
      | false =>
          obtain ⟨core, trail, -, rfl, clean⟩ := exists_cleanLine_eq_map line
          have later := (ih trail).map_untab_append core
          have whole := later.blank (skipped ++ ['\n']) Text.isBlank_newline
          rw [tidyLines_cons_of_not_blank blank, Text.broken_cons, Text.broken_cons, clean]
          simpa using whole

variable {text : Text} (no_quote : ∀ c ∈ text, isQuote c = false)

include no_quote

theorem isPlain_stripComments : IsPlain (stripComments text) := by
  refine isPlain_of_stripComments_eq (fun c member => ?_) (stripComments_stripComments text)
  exact no_quote c ((stripComments_sublist text).subset member)

/-- The normal form of a text without quotes is plain, also behind a newline. -/
theorem isPlain_broken_normalLines : IsPlain (Text.broken (normalLines text)) := by
  have excerpt := excerpt_broken_tidyLines [] ((stripComments text).splitOn '\n')
  rw [← normalLines_eq, List.nil_append, Text.broken_eq_cons_ofLines (List.splitOn_ne_nil _ _),
    Text.ofLines, List.intercalate_splitOn] at excerpt
  exact excerpt.isPlain (.cons rfl (reads_of_isBlank Text.isBlank_newline _)
    (isPlain_stripComments no_quote))

end Source
end CHeader
