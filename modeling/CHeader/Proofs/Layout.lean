import CHeader.Header.Parse
import CHeader.Proofs.NormalForm

/-!
# The layout of a header

Blanks in front of a line break, blank lines, and blanks at the end of a text are its layout.
Headers that differ only in their layout have one normal form and are parsed alike, wherever the
line breaks stand: in code, in a comment, in a literal, or behind a backslash.
-/

namespace CHeader
namespace Source

open Text

/-! ## Layouts -/

/-- The second text is the first one with more layout. -/
inductive Relaid : Text → Text → Prop where
  /-- Blanks of any kind follow the last character. -/
  | trail {gap : Text} (gap_blank : isBlankText gap = true) : Relaid [] gap
  /-- A character other than a newline stays as it is. -/
  | char {c : Char} {text other : Text} (inside : c ≠ '\n') (behind : Relaid text other) :
      Relaid (c :: text) (c :: other)
  /-- Blank lines, at least one of them, replace a newline; each ends in a newline of its own. -/
  | newline (lines : List Text) {text other : Text} (nonempty : lines ≠ [])
      (blank : ∀ line ∈ lines, isBlankText line = true) (single : ∀ line ∈ lines, '\n' ∉ line)
      (behind : Relaid text other) :
      Relaid ('\n' :: text) (lines.flatMap (· ++ ['\n']) ++ other)

theorem exists_gap_of_lines {lines : List Text} (nonempty : lines ≠ [])
    (blank : ∀ line ∈ lines, isBlankText line = true) :
    ∃ gap, isBlankText gap = true ∧ lines.flatMap (· ++ ['\n']) = gap ++ ['\n'] := by
  obtain ⟨front, last, rfl⟩ := (List.eq_nil_or_concat' lines).resolve_left nonempty
  refine ⟨front.flatMap (· ++ ['\n']) ++ last, ?_, by simp⟩
  rw [isBlankText_append]
  refine ⟨List.all_eq_true.mpr fun c member => ?_, blank last (by simp)⟩
  obtain ⟨line, listed, within⟩ := List.mem_flatMap.mp member
  rcases List.mem_append.mp within with inside | ends
  · exact isBlank_of_mem (blank line (List.mem_append_left [last] listed)) inside
  · exact List.mem_singleton.mp ends ▸ isBlank_newline

namespace Relaid

theorem respaced {text other : Text} (relaid : Relaid text other) : Respaced text other := by
  induction relaid with
  | trail gap_blank => exact .blank rfl gap_blank
  | char inside behind ih => exact .char rfl ih
  | @newline lines text other nonempty blank single behind ih =>
      obtain ⟨gap, gap_blank, joined⟩ := exists_gap_of_lines nonempty blank
      have no_gap : isBlankText [] = true := rfl
      rw [joined, List.append_assoc]
      exact .lineBreak no_gap gap_blank ih

theorem append_left (front : Text) (one_line : '\n' ∉ front) {text other : Text}
    (behind : Relaid text other) : Relaid (front ++ text) (front ++ other) := by
  induction front with
  | nil => exact behind
  | cons c front ih =>
      have inside : c ≠ '\n' := fun newline => one_line (newline ▸ List.mem_cons_self)
      exact .char inside (ih fun member => one_line (List.mem_cons_of_mem c member))

end Relaid

/-- The text with a carriage return in front of every newline. -/
def withReturns (text : Text) : Text :=
  text.flatMap fun c => if c = '\n' then ['\r', '\n'] else [c]

theorem relaid_withReturns (text : Text) : Relaid text (withReturns text) := by
  induction text with
  | nil => exact .trail rfl
  | cons c text ih =>
      rw [withReturns, List.flatMap_cons]
      split
      · next newline =>
          subst newline
          exact .newline [['\r']] (by simp) (by decide) (by decide) ih
      · next inside => exact .char inside ih

end Source

/-! ## Parsing -/

namespace Header

/-- What is found in a header depends on the lines of its normal form only. -/
theorem parse_congr {text other : Text}
    (same : Source.normalLines text = Source.normalLines other) (filter : TypeFilter)
    (source : Text) : parse filter source text = parse filter source other := by
  have normal : Source.normalize text = Source.normalize other := by
    rw [Source.normalize, Source.normalize, same]
  simp only [parse, enumsOf, structsOf, blocksOf, Block.ofHeader, Define.ofHeader, Define.lines,
    normal, same]

/-- Headers that differ only in their layout are parsed alike. -/
theorem parse_relaid {text other : Text} (relaid : Source.Relaid text other) (filter : TypeFilter)
    (source : Text) : parse filter source other = parse filter source text :=
  parse_congr relaid.respaced.normalLines_eq.symm filter source

/-- The layout of a header has no influence on its normal form, and no matter how its lines end, the
same structs, enums and macros are found. -/
theorem layout_irrelevant (text : Text) :
    (∀ other, Source.Relaid text other → Source.normalize other = Source.normalize text) ∧
      ∀ filter source,
        parse filter source (Source.withReturns text) = parse filter source text := by
  constructor
  · intro other relaid
    rw [Source.normalize, Source.normalize, relaid.respaced.normalLines_eq]
  · exact parse_relaid (Source.relaid_withReturns text)

/-- A header with an enum behind a literal in which a backslash escapes a newline. -/
def escapedNewline : Text :=
  "'\\\n' //\nenum e { A };".toList

/-- Blanks may follow the backslash, which escapes a blank then, and the enum is still found. -/
theorem layout_irrelevant_escaped_newline :
    Source.normalize "'\\ \n\r\n' //\t\nenum e { A };\n".toList = Source.normalize escapedNewline ∧
      Source.normalize escapedNewline = "'\\\n'\nenum e { A };".toList ∧
      parse {} [] (Source.withReturns escapedNewline) = parse {} [] escapedNewline ∧
      parse {} [] escapedNewline =
        .ok ⟨[], [], [⟨"e".toList, [⟨"A".toList, .int 0⟩]⟩], []⟩ := by
  have relaid : Source.Relaid escapedNewline
      "'\\ \n\r\n' //\t\nenum e { A };\n".toList := by
    have behind : Source.Relaid "\nenum e { A };".toList "\t\nenum e { A };\n".toList :=
      .newline [['\t']] (by simp) (by decide) (by decide)
        (.append_left "enum e { A };".toList (by decide) (.trail rfl))
    have broken : Source.Relaid "\n' //\nenum e { A };".toList
        " \n\r\n' //\t\nenum e { A };\n".toList :=
      .newline [[' '], ['\r']] (by simp) (by decide) (by decide)
        (.append_left "' //".toList (by decide) behind)
    exact .append_left "'\\".toList (by decide) broken
  have same := layout_irrelevant escapedNewline
  exact ⟨same.1 _ relaid, by decide +kernel, same.2 {} [], by decide +kernel⟩

end Header
end CHeader
