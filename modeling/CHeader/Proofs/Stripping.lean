import CHeader.Proofs.Tokens
import CHeader.Source.Normal

/-!
# Stripping comments

Stripped text is stripped already.  Deleting a comment joins its neighbours, which may turn an
unmatched quote into the start of a literal; such a literal ends at another unmatched quote, so the
scanner is again at the start of a token behind it.  No deletion makes two characters neighbours
that open or close a comment, because every comment begins with a slash.
-/

namespace CHeader
namespace Source

open Token

@[simp]
theorem stripComments_nil : stripComments [] = [] := by
  simp [stripComments, scan_nil]

theorem stripComments_comment {c : Char} {text rest : Text} {token : Token}
    (reads : Reads c text token rest) (comment : token.isComment = true) :
    stripComments (c :: text) = stripComments rest := by
  simp [stripComments, scan_of_reads reads, comment]

theorem stripComments_kept {c : Char} {text rest : Text} {token : Token}
    (reads : Reads c text token rest) (kept : token.isComment = false) :
    stripComments (c :: text) = token.source ++ stripComments rest := by
  simp [stripComments, scan_of_reads reads, kept]

/-! ## New neighbours -/

/-- A text that does not begin with a slash keeps its first character. -/
theorem head?_stripComments {text : Text} (no_slash : text.head? ≠ some '/') :
    (stripComments text).head? = text.head? := by
  cases text with
  | nil => rw [stripComments_nil]
  | cons c text =>
      obtain ⟨token, rest, reads⟩ := exists_reads c text
      cases reads with
      | lineComment => exact absurd rfl no_slash
      | blockComment => exact absurd rfl no_slash
      | literal opens found => rw [stripComments_kept (.literal opens found) rfl]; rfl
      | plain quotes slashes stars => rw [stripComments_kept (.plain quotes slashes stars) rfl]; rfl

/-- Deleting comments brings no star in front of a slash. -/
theorem isChain_keepsOpen_stripComments {before : Char} {text : Text}
    (still_open : (before :: text).IsChain KeepsOpen) :
    (before :: stripComments text).IsChain KeepsOpen := by
  induction text using scan_induction generalizing before with
  | nil => simp
  | token c text token rest reads ih =>
      rw [← reads.source_append] at still_open
      obtain ⟨front, last, source⟩ : ∃ front last, token.source = front ++ [last] :=
        ⟨_, _, (List.dropLast_append_getLast token.source_ne_nil).symm⟩
      have parts : (before :: (front ++ [last])).IsChain KeepsOpen ∧
          (last :: rest).IsChain KeepsOpen := by
        rwa [source, List.append_assoc, List.singleton_append, List.isChain_cons_split]
          at still_open
      cases kind : token.isComment with
      | false =>
          rw [stripComments_kept reads kind, source, List.append_assoc, List.singleton_append,
            List.isChain_cons_split]
          exact ⟨parts.1, ih parts.2⟩
      | true =>
          rw [stripComments_comment reads kind]
          obtain ⟨tail, slash⟩ := exists_slash_of_isComment kind
          have no_star : KeepsOpen before '/' := by
            rw [slash] at still_open
            exact (List.isChain_cons_cons.mp still_open).1
          exact (ih parts.2).tail.cons fun d _ ends => no_star ⟨ends.1, rfl⟩

theorem blockBody?_stripComments {text : Text} (still_open : blockBody? text = none) :
    blockBody? (stripComments text) = none := by
  rw [blockBody?_eq_none_iff] at still_open ⊢
  -- A blank in front closes nothing, so it may stand before either text.
  have padded : (' ' :: text).IsChain KeepsOpen := still_open.cons fun d _ ends => by simp at ends
  exact (isChain_keepsOpen_stripComments padded).tail

/-! ## New literals -/

/-- A search that passes a literal is not for the quote of that literal. -/
theorem ne_quote_of_reads_literal {quote c : Char} {text body rest : Text} {escaped : Bool}
    (opens : isQuote c = true) (closed : literalBody? c text = some (body, rest))
    (still_open : behindQuote? quote escaped (c :: text) = none) : c ≠ quote := by
  rintro rfl
  cases escaped with
  | false => simp [behindQuote?, not_backslash_of_isQuote opens] at still_open
  | true =>
      have unclosed : literalBody? c text = none :=
        literalBody?_eq_none_iff.mpr (by simpa [behindQuote?] using still_open)
      simp [unclosed] at closed

/-- If a quote has no partner in a text, its partner in the stripped text, if it has one there,
stands right before the rest of a token. -/
theorem exists_of_behindQuote?_stripComments {quote : Char} {text rest : Text}
    {escaped escaped' : Bool} (still_open : behindQuote? quote escaped text = none)
    (found : behindQuote? quote escaped' (stripComments text) = some rest) :
    ∃ later, later.length < text.length ∧ rest = stripComments later := by
  -- The flags differ only behind a backslash whose comment was deleted.  The induction leaves them
  -- unrelated: where they matter, either search alone decides the case.
  induction text using scan_induction generalizing escaped escaped' with
  | nil => simp [behindQuote?] at found
  | token c text token remaining reads ih =>
      have shorter := reads.length_le
      suffices ∃ later, later.length ≤ remaining.length ∧ rest = stripComments later by
        obtain ⟨later, bound, same⟩ := this
        exact ⟨later, by simp only [List.length_cons]; omega, same⟩
      have continued {flag flag' : Bool} (still_open : behindQuote? quote flag remaining = none)
          (found : behindQuote? quote flag' (stripComments remaining) = some rest) :
          ∃ later, later.length ≤ remaining.length ∧ rest = stripComments later := by
        obtain ⟨later, bound, same⟩ := ih still_open found
        exact ⟨later, bound.le, same⟩
      cases kind : token.isComment with
      | true =>
          rw [stripComments_comment reads kind] at found
          rw [← reads.source_append] at still_open
          obtain ⟨flag, open_behind, _⟩ := behindQuote?_split still_open
          exact continued open_behind found
      | false =>
          rw [stripComments_kept reads kind] at found
          cases reads with
          | lineComment => simp [isComment] at kind
          | blockComment => simp [isComment] at kind
          | @literal inner _ body _ opens closed =>
              have not_backslash := not_backslash_of_isQuote opens
              have different := ne_quote_of_reads_literal opens closed still_open
              rw [behindQuote?_cons_of_ne not_backslash different, literalBody?_source closed,
                ← List.singleton_append, ← List.append_assoc] at still_open
              rw [source, List.cons_append, List.cons_append,
                behindQuote?_cons_of_ne not_backslash different] at found
              obtain ⟨flag, open_behind, after⟩ := behindQuote?_split still_open
              exact continued open_behind (after _ ▸ found)
          | plain =>
              rw [← List.singleton_append] at still_open
              obtain ⟨flag, open_behind, _⟩ := behindQuote?_split still_open
              cases escaped' with
              | true => exact continued open_behind found
              | false =>
                  simp only [source, List.singleton_append, behindQuote?] at found
                  split at found
                  · exact continued open_behind found
                  · split at found
                    · exact ⟨text, le_rfl, (Option.some.inj found).symm⟩
                    · exact continued open_behind found

/-! ## Stripping twice -/

/-- A character that is read on its own is so in front of the stripped text, unless that has the
end of a literal for it. -/
theorem reads_plain_stripComments {c : Char} {text : Text}
    (no_line_comment : c = '/' → text.head? ≠ some '/')
    (no_block_comment : ∀ inner, c = '/' → text = '*' :: inner → blockBody? inner = none)
    (no_literal : isQuote c = true → literalBody? c (stripComments text) = none) :
    Reads c (stripComments text) (plain c) (stripComments text) := by
  refine .plain no_literal ?_ ?_
  · intro slash
    rw [head?_stripComments (no_line_comment slash)]
    exact no_line_comment slash
  · intro inner slash star
    have first := head?_stripComments (no_line_comment slash)
    rw [star, List.head?_cons] at first
    obtain ⟨inner', rfl⟩ := List.head?_eq_some_iff.mp first.symm
    have reads : Reads '*' inner' (plain '*') inner' :=
      .plain (by simp [isQuote]) (by simp) (by simp)
    rw [stripComments_kept reads rfl, source, List.singleton_append, List.cons.injEq] at star
    rw [← star.2]
    exact blockBody?_stripComments (no_block_comment inner' slash rfl)

theorem stripComments_stripComments (text : Text) :
    stripComments (stripComments text) = stripComments text := by
  induction len : text.length using Nat.strong_induction_on generalizing text with
  | _ n ih =>
      subst len
      cases text with
      | nil => rw [stripComments_nil, stripComments_nil]
      | cons c text =>
          obtain ⟨token, rest, reads⟩ := exists_reads c text
          have shorter : rest.length < (c :: text).length := Nat.lt_succ_of_le reads.length_le
          have again := ih rest.length shorter rest rfl
          cases kind : token.isComment with
          | true => rw [stripComments_comment reads kind, again]
          | false =>
              rw [stripComments_kept reads kind]
              cases reads with
              | lineComment => simp [isComment] at kind
              | blockComment => simp [isComment] at kind
              | @literal _ _ body _ opens closed =>
                  have reads' := Reads.literal opens
                    (literalBody?_replace closed (stripComments rest))
                  rw [source_literal_append, stripComments_kept reads' rfl, again,
                    source_literal_append]
              | plain no_literal no_line_comment no_block_comment =>
                  rw [source, List.singleton_append]
                  by_cases alone : isQuote c = true → literalBody? c (stripComments text) = none
                  · have reads' :=
                      reads_plain_stripComments no_line_comment no_block_comment alone
                    rw [stripComments_kept reads' rfl, again]
                    rfl
                  · -- The new literal ends where a token of the first scan ends.
                    obtain ⟨opens, closed⟩ := Classical.not_imp.mp alone
                    obtain ⟨⟨body, remaining⟩, closed⟩ := Option.ne_none_iff_exists'.mp closed
                    have reads' := Reads.literal opens closed
                    obtain ⟨later, bound, same⟩ :
                        ∃ later, later.length < text.length ∧ remaining = stripComments later :=
                      exists_of_behindQuote?_stripComments
                        (literalBody?_eq_none_iff.mp (no_literal opens))
                        (by rw [← literalBody?_map_snd, closed]; rfl)
                    have settled := ih later.length (bound.trans_le (Nat.le_succ _)) later rfl
                    rw [stripComments_kept reads' rfl, same, settled, ← same]
                    exact reads'.source_append

end Source
end CHeader
