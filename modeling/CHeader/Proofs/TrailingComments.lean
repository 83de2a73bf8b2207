import CHeader.Proofs.Concatenation
import CHeader.Proofs.Layout

/-!
# Comments at the end of a line

A comment between blanks and a line break leaves the blanks behind, which are layout.  So it can be
added or removed without any effect on the normal form, whatever it holds.  The text in front of it
has to be one that scans the same with and without the rest: no literal or comment is left open in
it, not even a line comment.
-/

namespace CHeader
namespace Source

open Text Token

/-- Comments as they are written.  A block comment ends nowhere but at its end, and a line comment
stays on its line. -/
inductive IsComment : Text → Prop where
  | block {body : Text} (no_end : ¬ ['*', '/'] <:+: body) :
      IsComment ('/' :: '*' :: (body ++ ['*', '/']))
  | line {body : Text} (one_line : '\n' ∉ body) : IsComment ('/' :: '/' :: body)

theorem IsComment.stripComments_append {comment : Text} (written : IsComment comment)
    (later : Text) :
    stripComments (comment ++ '\n' :: later) = '\n' :: stripComments later := by
  rw [← stripComments_newline]
  cases written with
  | @block body no_end =>
      have reads : Reads '/' ('*' :: (body ++ '*' :: '/' :: '\n' :: later)) (.blockComment body)
          ('\n' :: later) := .blockComment (blockBody?_append no_end _)
      simpa using stripComments_comment reads rfl
  | @line body one_line =>
      have reads : Reads '/' ('/' :: (body ++ '\n' :: later)) (.lineComment body)
          ('\n' :: later) := .lineComment one_line (by simp)
      exact stripComments_comment reads rfl

/-- Blanks keep a slash at the end of the front apart from a comment behind them. -/
theorem canFollow_blank_append {front gap : Text} (outside : ¬ EndsInLineComment front)
    (nonempty : gap ≠ []) (blank : isBlankText gap = true) (later : Text) :
    CanFollow front (gap ++ later) := by
  obtain ⟨c, gap, rfl⟩ := List.exists_cons_of_ne_nil nonempty
  have blank_c := ((isBlankText_cons c gap).mp blank).1
  refine ⟨?_, fun inside => absurd inside outside⟩
  rintro d first
  obtain rfl : c = d := by simpa using first
  constructor <;> rintro rfl <;> simp at blank_c

section TrailingComment

variable {text gap comment : Text} (complete : IsComplete text)
  (outside : ¬ EndsInLineComment text) (nonempty : gap ≠ []) (blank : isBlankText gap = true)
  (written : IsComment comment) (later : Text)

include complete outside nonempty blank written

theorem stripComments_append_comment :
    stripComments (text ++ gap ++ comment ++ '\n' :: later) =
      stripComments text ++ (gap ++ '\n' :: stripComments later) := by
  rw [List.append_assoc, List.append_assoc,
    stripComments_append complete (canFollow_blank_append outside nonempty blank _),
    stripComments_blank_append blank, written.stripComments_append]

theorem normalLines_append_comment :
    normalLines (text ++ gap ++ comment ++ '\n' :: later) =
      normalLines (text ++ '\n' :: later) := by
  have no_gap : isBlankText [] = true := rfl
  have left_over : Respaced (gap ++ '\n' :: stripComments later) ('\n' :: stripComments later) :=
    .lineBreak blank no_gap (.refl _)
  rw [normalLines_eq, normalLines_eq,
    stripComments_append_comment complete outside nonempty blank written,
    stripComments_append_newline complete]
  exact (left_over.append_left (stripComments text)).tidyLines_splitOn

/-- A comment between blanks and the end of a line leaves the normal form of a text as it is. -/
theorem normalize_append_comment :
    normalize (text ++ gap ++ comment ++ '\n' :: later) = normalize (text ++ '\n' :: later) := by
  rw [normalize, normalize, normalLines_append_comment complete outside nonempty blank written]

end TrailingComment

/-- A macro whose value is a literal with the mark of a comment. -/
def slashesMacro : Text :=
  "#define U \"//\"".toList

/-- A block comment with a quote, a line break and an escaped quote, and a line comment with a
quote, behind a macro.  Nothing is left of either, and the macro has its value. -/
theorem normalize_append_comment_literal :
    (normalize (slashesMacro ++ " \t".toList ++ "/* it's \n \\\" // */".toList ++
          '\n' :: "'a' '".toList) = normalize (slashesMacro ++ '\n' :: "'a' '".toList) ∧
      normalize (slashesMacro ++ " \t".toList ++ "// it's /* \\".toList ++
          '\n' :: "'a' '".toList) = normalize (slashesMacro ++ '\n' :: "'a' '".toList)) ∧
      normalize (slashesMacro ++ '\n' :: "'a' '".toList) = "#define U \"//\"\n'a' '".toList ∧
      Define.ofHeader (slashesMacro ++ '\n' :: "'a' '".toList) =
        [⟨"U".toList, "\"//\"".toList⟩] := by
  have tokens : scan slashesMacro =
      "#define U ".toList.map .plain ++ [.literal '"' "//".toList] := by
    unfold slashesMacro
    simp [scan_cons, scan_nil, Token.next, literalBody?, isQuote]
  have complete : IsComplete slashesMacro := by
    apply isComplete_of_plain
    rw [tokens]
    simp [IsOrdinary, isQuote]
  have outside : ¬ EndsInLineComment slashesMacro := by
    rintro ⟨body, last⟩
    rw [tokens] at last
    simp at last
  have found : blockBody? " it's \n \\\" // */".toList =
      some (" it's \n \\\" // ".toList, []) := rfl
  have block : IsComment "/* it's \n \\\" // */".toList := .block (not_infix_of_blockBody? found)
  have line : IsComment "// it's /* \\".toList :=
    .line (by decide : '\n' ∉ " it's /* \\".toList)
  exact ⟨⟨normalize_append_comment complete outside (by simp) rfl block _,
    normalize_append_comment complete outside (by simp) rfl line _⟩,
    by decide +kernel, by decide +kernel⟩

end Source

/-- A comment between blanks and the end of a line has no influence on what is found in a header. -/
theorem Header.parse_append_comment {text gap comment : Text} (complete : Token.IsComplete text)
    (outside : ¬ Token.EndsInLineComment text) (nonempty : gap ≠ [])
    (blank : Text.isBlankText gap = true) (written : Source.IsComment comment) (later : Text)
    (filter : TypeFilter) (source : Text) :
    parse filter source (text ++ gap ++ comment ++ '\n' :: later) =
      parse filter source (text ++ '\n' :: later) :=
  parse_congr
    (Source.normalLines_append_comment complete outside nonempty blank written later) filter source

end CHeader
