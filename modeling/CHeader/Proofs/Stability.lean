import CHeader.Proofs.BlockDivision
import CHeader.Proofs.Excerpts
import CHeader.Proofs.WellFormed

/-!
# Extracting twice

The blocks and the macros that are found in a header without quotes are an excerpt of its normal
form.  Their texts, joined again, are therefore in normal form and have no comments; each block is
still read with the same head, and each line gives the same macro.
-/

namespace CHeader

theorem Text.mem_splitOn_ofLines {pieces : List Text} (nonempty : pieces ≠ []) {line : Text}
    (part : line ∈ (ofLines pieces).splitOn '\n') :
    ∃ piece ∈ pieces, line ∈ piece.splitOn '\n' := by
  induction pieces with
  | nil => exact absurd rfl nonempty
  | cons piece pieces ih =>
      by_cases last : pieces = []
      · subst last
        exact ⟨piece, List.mem_singleton_self piece, by simpa [ofLines] using part⟩
      · rw [ofLines_cons, broken_eq_cons_ofLines last, List.splitOn_append_cons_self] at part
        rcases List.mem_append.mp part with first | later
        · exact ⟨piece, List.mem_cons_self, first⟩
        · obtain ⟨other, listed, inside⟩ := ih last later
          exact ⟨other, List.mem_cons_of_mem piece listed, inside⟩

namespace Source

theorem IsPlain.ofLines {lines : List Text} (is_plain : IsPlain (Text.broken lines)) :
    IsPlain (Text.ofLines lines) := by
  cases lines with
  | nil => exact is_plain
  | cons line lines =>
      rw [Text.broken_eq_cons_ofLines (List.cons_ne_nil line lines)] at is_plain
      cases is_plain with
      | cons no_quote reads behind => exact behind

/-- A plain text with tidy lines is in normal form. -/
theorem IsPlain.normalLines_eq {text : Text} (is_plain : IsPlain text)
    (tidy : ∀ line ∈ text.splitOn '\n', IsTidyLine line) :
    normalLines text = text.splitOn '\n' := by
  rw [Source.normalLines_eq, is_plain.stripComments_eq, tidyLines_eq_self tidy]

theorem IsPlain.normalize_eq {text : Text} (is_plain : IsPlain text)
    (tidy : ∀ line ∈ text.splitOn '\n', IsTidyLine line) : normalize text = text := by
  rw [normalize, is_plain.normalLines_eq tidy, Text.ofLines, List.intercalate_splitOn]

end Source

/-! ## Blocks -/

namespace Block

variable {kind : BlockKind} {text : Text} {blocks : List Block}

theorem Divides.excerpt (divides : Divides kind text blocks) :
    Source.Excerpt text (Text.broken (blocks.map Block.text)) := by
  induction divides with
  | last => exact .nil
  | @block gap rest parts blocks clear longest behind ih =>
      exact (ih.append (parts.toBlock kind).text).blank gap Text.isBlank_newline

/-- A block keeps its longest head when nothing follows it, for any longer one would be written in
the whole text, too. -/
theorem search_of_isLongest {parts : BlockParts} {rest : Text}
    (longest : parts.IsLongest kind ((parts.toBlock kind).text ++ rest) rest) :
    search kind (parts.toBlock kind).text = [parts.toBlock kind] := by
  have alone : parts.IsLongest kind (parts.toBlock kind).text [] := by
    refine ⟨BlockParts.begins_iff.mpr ⟨(List.append_nil _).symm, longest.written⟩, ?_⟩
    intro other rest' begins
    obtain ⟨source, written⟩ := BlockParts.begins_iff.mp begins
    refine longest.longest other (rest' ++ rest) (BlockParts.begins_iff.mpr ⟨?_, written⟩)
    rw [source, List.append_assoc]
  rw [search_of_some (BlockParts.ofText?_eq_some_iff.mpr alone), search_nil]

theorem Divides.search_ofLines (divides : Divides kind text blocks) :
    search kind (Text.ofLines (blocks.map Block.text)) = blocks := by
  induction divides with
  | last => exact search_nil kind
  | @block gap rest parts blocks clear longest behind ih =>
      have alone := search_of_isLongest longest
      by_cases last : blocks = []
      · subst last
        simpa [Text.ofLines] using alone
      · have closed := BlockParts.bracesClosed_toBlock parts kind
        rw [List.map_cons, Text.ofLines_cons, Text.broken_eq_cons_ofLines (by simpa using last),
          search_append_newline kind closed, alone, ih]
        rfl

/-- The texts of the blocks hold the same blocks again. -/
theorem ofHeader_ofLines_ofHeader (no_quote : ∀ c ∈ text, Token.isQuote c = false) :
    ofHeader kind (Text.ofLines ((ofHeader kind text).map Block.text)) = ofHeader kind text := by
  have divides : Divides kind (Source.normalize text) (ofHeader kind text) :=
    divides_search kind (Source.normalize text)
  have normal_plain := (Source.isPlain_broken_normalLines no_quote).ofLines
  have plain := (divides.excerpt.isPlain normal_plain).ofLines
  by_cases none_found : ofHeader kind text = []
  · rw [none_found]
    simp [Text.ofLines, ofHeader]
  · have tidy : ∀ line ∈ (Text.ofLines ((ofHeader kind text).map Block.text)).splitOn '\n',
        Source.IsTidyLine line := by
      intro line part
      obtain ⟨piece, listed, inside⟩ := Text.mem_splitOn_ofLines (by simpa using none_found) part
      obtain ⟨block, found, rfl⟩ := List.mem_map.mp listed
      exact isTidyLine_of_mem_lines found inside
    rw [ofHeader, plain.normalize_eq tidy, divides.search_ofLines]

end Block

/-! ## Macros -/

namespace Define

/-- The line that defines a macro, with single spaces. -/
def written (define : Define) : Text :=
  List.intercalate [' '] ["#define".toList, define.name, define.value]

theorem written_eq (define : Define) :
    define.written = "#define".toList ++ ([' '] ++ (define.name ++ ([' '] ++ define.value))) := by
  rw [written, List.intercalate_cons_cons, List.intercalate_cons_cons, List.intercalate_singleton,
    List.append_assoc, List.append_assoc]

variable {define : Define} {line text kept : Text}

theorem IsDefinedBy.excerpt (defined : define.IsDefinedBy line) (behind : Source.Excerpt text kept)
    (skipped : Text) :
    Source.Excerpt (skipped ++ '\n' :: (line ++ text)) ('\n' :: (define.written ++ kept)) := by
  obtain ⟨front, gap, gap', -, -, -, rfl, -⟩ := defined
  have value := (behind.append define.value).blank gap' Text.isBlank_space
  have name := (value.append define.name).blank gap Text.isBlank_space
  have directive := name.append "#define".toList
  have whole := directive.blank (skipped ++ '\n' :: front) Text.isBlank_newline
  rw [written_eq]
  generalize "#define".toList = mark at whole ⊢
  simpa using whole

/-- The lines that define a macro are left, with single spaces. -/
theorem excerpt_written (skipped : Text) (lines : List Text) :
    Source.Excerpt (skipped ++ Text.broken lines)
      (Text.broken ((lines.filterMap ofWholeLine?).map written)) := by
  -- A line without a macro is left out together with what was left out in front of it.
  induction lines generalizing skipped with
  | nil => exact .nil
  | cons line lines ih =>
      cases read : ofWholeLine? line with
      | none =>
          have later := ih (skipped ++ '\n' :: line)
          rw [List.append_assoc, List.cons_append] at later
          rw [List.filterMap_cons_none read, Text.broken_cons]
          exact later
      | some define =>
          obtain ⟨defined, -⟩ := ofWholeLine?_eq_some_iff.mp read
          rw [List.filterMap_cons_some read, List.map_cons, Text.broken_cons, Text.broken_cons]
          exact defined.excerpt (ih []) skipped

theorem isTidyLine_written (well_formed : define.IsWellFormed) :
    Source.IsTidyLine define.written := by
  have directive : '\n' ∉ "#define".toList ∧ '\t' ∉ "#define".toList := by decide
  have name (c : Char) := well_formed.name_marks c
  have value (c : Char) := well_formed.value_marks c
  rw [written_eq]
  generalize "#define".toList = front at directive ⊢
  constructor
  · simp
  · simp [directive, mt (name '\n'), mt (value '\n')]
  · simp [directive, mt (name '\t'), mt (value '\t')]
  · intro c last
    simp only [← List.append_assoc] at last
    rw [List.getLast?_append_of_ne_nil _ well_formed.value_nonempty] at last
    exact (well_formed.value_end c last).1

theorem ofWholeLine?_written (well_formed : define.IsWellFormed) :
    ofWholeLine? define.written = some define := by
  refine ofWholeLine?_eq_some_iff.mpr ⟨⟨[], [' '], [' '], by simp, by simp, by simp, ?_,
    well_formed.name_nonempty, fun space => (well_formed.name_marks ' ' space).1 rfl,
    well_formed.value_nonempty, well_formed.value_front⟩, fun last =>
      (well_formed.value_end '\\' last).2 rfl⟩
  rw [written_eq]
  simp only [List.nil_append, List.append_assoc]

/-- The lines of the macros define the same macros again. -/
theorem ofHeader_ofLines_ofHeader (no_quote : ∀ c ∈ text, Token.isQuote c = false) :
    ofHeader (Text.ofLines ((ofHeader text).map written)) = ofHeader text := by
  have excerpt := excerpt_written [] (Source.normalLines text)
  rw [List.nil_append, ← ofHeader_eq_filterMap] at excerpt
  have plain := (excerpt.isPlain (Source.isPlain_broken_normalLines no_quote)).ofLines
  have tidy : ∀ line ∈ (ofHeader text).map written, Source.IsTidyLine line :=
    List.forall_mem_map.mpr fun define found =>
      isTidyLine_written (isWellFormed_of_mem_ofHeader found)
  by_cases none_found : ofHeader text = []
  · rw [none_found]
    simp [Text.ofLines, ofHeader_eq_filterMap]
  · have split : (Text.ofLines ((ofHeader text).map written)).splitOn '\n' =
        (ofHeader text).map written :=
      List.splitOn_intercalate '\n' (fun line listed => (tidy line listed).no_newline)
        (by simpa using none_found)
    rw [ofHeader_eq_filterMap, plain.normalLines_eq (split.symm ▸ tidy), split, List.filterMap_map]
    refine (List.filterMap_congr fun define found => ?_).trans List.filterMap_some
    exact ofWholeLine?_written (isWellFormed_of_mem_ofHeader found)

end Define

/-! ## Headers -/

namespace Header

/-- If a header has no quotes, then the texts of its structs hold the same structs again, those of
its enums the same enums, and the lines of its macros the same macros. -/
theorem extraction_stable {text : Text} (no_quote : '\'' ∉ text ∧ '"' ∉ text) :
    (∀ kind, Block.ofHeader kind (Text.ofLines ((Block.ofHeader kind text).map Block.text)) =
      Block.ofHeader kind text) ∧
    Define.ofHeader (Text.ofLines ((Define.ofHeader text).map Define.written)) =
      Define.ofHeader text := by
  have no_token : ∀ c ∈ text, Token.isQuote c = false := by
    intro c member
    have apostrophe : c ≠ '\'' := fun same => no_quote.1 (same ▸ member)
    have quote : c ≠ '"' := fun same => no_quote.2 (same ▸ member)
    simp [Token.isQuote, apostrophe, quote]
  exact ⟨fun kind => Block.ofHeader_ofLines_ofHeader no_token,
    Define.ofHeader_ofLines_ofHeader no_token⟩

/-- A header with marks of comments that belong to none, and a comment between brace and
semicolon. -/
def strayMarks : Text :=
  Text.ofLines [r"struct s {".toList, "\tint a; */".toList, r"}/* c */;".toList,
    "  #define  A(x)   */ 1 // z".toList, "struct t { int b; /* };".toList,
    "#define B /* 2 ".toList]

theorem extraction_stable_strayMarks :
    ('\'' ∉ strayMarks ∧ '"' ∉ strayMarks) ∧
    (Block.ofHeader .struct strayMarks).map Block.text =
      [r"struct s {
 int a; */
};".toList, "struct t { int b; /* };".toList] ∧
    (Define.ofHeader strayMarks).map Define.written =
      ["#define A(x) */ 1".toList, "#define B /* 2".toList] ∧
    (∀ kind, Block.ofHeader kind
        (Text.ofLines ((Block.ofHeader kind strayMarks).map Block.text)) =
      Block.ofHeader kind strayMarks) ∧
    Define.ofHeader (Text.ofLines ((Define.ofHeader strayMarks).map Define.written)) =
      Define.ofHeader strayMarks := by
  have no_quote : '\'' ∉ strayMarks ∧ '"' ∉ strayMarks := by decide
  exact ⟨no_quote, by decide +kernel, by decide +kernel, extraction_stable no_quote⟩

end Header
end CHeader
