import CHeader.Proofs.BlockLines
import CHeader.Proofs.PrintedHeader
import CHeader.Proofs.Traversal

/-!
# Well-formed headers

Headers arise by parsing and by merging.  What the stages of the parser establish holds of every
header that arises: blocks have tidy lines, names are words, the values of enumerators and of macros
are trimmed and end where they should.
-/

namespace CHeader

/-! ## Shapes -/

/-- What the block of a struct looks like. -/
structure Block.IsStruct (block : Block) : Prop where
  opens : "struct ".toList <+: block.text
  closes : ['}', ';'] <:+ block.text
  first_line : [' ', '{'] <:+: block.text.takeWhile (· ≠ '\n')
  no_tab : '\t' ∉ block.text
  lines : ∀ line ∈ block.text.splitOn '\n',
    line ≠ [] ∧ ∀ c ∈ line.getLast?, Text.isBlank c = false

/-- What the text of an enumerator that has no integer looks like. -/
structure IsExpression (text : Text) : Prop where
  trimmed : Text.trim text = text
  no_comma : ',' ∉ text
  no_closing : '}' ∉ text
  no_newline : '\n' ∉ text
  no_literal : IntLiteral.parse? text = none

/-- What an enumerator looks like. -/
structure Enumerator.IsWellFormed (enumerator : Enumerator) : Prop where
  name : Enum.IsWord enumerator.name
  value : ∀ text, enumerator.value = .expr text → IsExpression text

/-- What a resolved enum looks like. -/
structure Enum.IsWellFormed (enum : Enum) : Prop where
  name : IsWord enum.name
  enumerators : ∀ enumerator ∈ enum.enumerators, enumerator.IsWellFormed

/-- What a macro looks like. -/
structure Define.IsWellFormed (define : Define) : Prop where
  name_nonempty : define.name ≠ []
  name_marks : ∀ c ∈ define.name, c ≠ ' ' ∧ c ≠ '\t' ∧ c ≠ '\n'
  value_nonempty : define.value ≠ []
  value_marks : ∀ c ∈ define.value, c ≠ '\t' ∧ c ≠ '\n'
  value_front : define.value.head? ≠ some ' '
  value_end : ∀ c ∈ define.value.getLast?, Text.isBlank c = false ∧ c ≠ '\\'

namespace Header

/-- What a header looks like. -/
structure IsWellFormed (header : Header) : Prop where
  structs : ∀ block ∈ header.structs, block.IsStruct
  enums : ∀ enum ∈ header.enums, enum.IsWellFormed
  defines : ∀ define ∈ header.defines, define.IsWellFormed

/-- The headers that arise from empty ones by parsing and merging. -/
inductive Reachable : Header → Prop where
  | empty (source : Text) : Reachable ⟨source, [], [], []⟩
  | parse {filter : TypeFilter} {source text : Text} {header : Header}
      (parsed : Header.parse filter source text = .ok header) : Reachable header
  | merge {header other : Header} (first : Reachable header) (second : Reachable other) :
      Reachable (header.merge other)

end Header

/-! ## Structs -/

theorem Block.isStruct_of_mem_ofHeader {text : Text} {block : Block}
    (found : block ∈ ofHeader .struct text) : block.IsStruct := by
  obtain ⟨parts, written, rfl, inside⟩ := exists_parts_of_mem_search found
  have whole := BlockParts.toBlock_text .struct parts
  refine ⟨⟨parts.tail, rfl⟩, ?_, ?_, ?_, ?_⟩
  · rw [whole]
    exact List.suffix_append _ _
  · have one_line : '\n' ∉ "struct ".toList ++ parts.head ++ [' ', '{'] := by
      simp [written.one_line]
    have opening : ∀ c ∈ "struct ".toList ++ parts.head ++ [' ', '{'],
        decide (c ≠ '\n') = true := by
      intro c member
      simpa using fun newline : c = '\n' => one_line (newline ▸ member)
    have split : (parts.toBlock .struct).text =
        ("struct ".toList ++ parts.head ++ [' ', '{']) ++ (parts.body ++ ['}', ';']) := by
      rw [whole]
      simp [BlockKind.keyword]
    rw [split, List.takeWhile_append_of_pos opening]
    exact ⟨"struct ".toList ++ parts.head, _, rfl⟩
  · intro tab
    exact Source.tab_notMem_normalize text (inside.subset tab)
  · intro line member
    have tidy := isTidyLine_of_mem_lines found member
    exact ⟨tidy.nonempty, tidy.solid_end⟩

/-! ## Enums -/

theorem Enum.mem_entries {body entry : Text} (member : entry ∈ entries body) :
    entry ⊆ body ∧ ',' ∉ entry := by
  have part := (List.mem_filter.mp member).1
  refine ⟨fun c inside => (Text.mem_of_mem_splitOn part inside).1, fun comma => ?_⟩
  exact (Text.mem_of_mem_splitOn part comma).2 rfl

theorem Enum.Entry.isExpression_of_ofText? {text : Text} {entry : Entry}
    (read : ofText? text = some entry) (no_comma : ',' ∉ text) (no_closing : '}' ∉ text)
    (no_newline : '\n' ∉ text) {previous : Int} {kept : Text}
    (symbolic : (entry.enumerator previous).value = .expr kept) : IsExpression kept := by
  cases entry with
  | bare name => simp [enumerator] at symbolic
  | assigned name value =>
      obtain ⟨raw, within, trimmed⟩ := value_of_ofText? read
      obtain ⟨rfl, no_literal⟩ := valueOf_eq_expr symbolic
      have subset : kept ⊆ text := by
        rw [trimmed]
        exact List.Subset.trans (Text.trim_subset raw) within
      refine ⟨?_, fun mark => no_comma (subset mark), fun mark => no_closing (subset mark),
        fun mark => no_newline (subset mark), no_literal⟩
      rw [trimmed, Text.trim_trim]

theorem Enum.isWellFormed_of_resolve {text : Text} {enum : Enum}
    (resolved : resolve text = .ok enum) : enum.IsWellFormed := by
  obtain ⟨named, body, found, entries_resolved⟩ := exists_parts_of_resolve resolved
  obtain ⟨no_closing, within⟩ := body?_source found
  refine ⟨isWord_of_name? named, fun enumerator member => ?_⟩
  obtain ⟨piece, listed, entry, before, read, rfl⟩ :=
    exists_entry_of_mem_resolveEntries entries_resolved enumerator member
  obtain ⟨piece_within, no_comma⟩ := mem_entries listed
  refine ⟨Entry.isWord_of_ofText? read before, fun kept symbolic => ?_⟩
  exact Entry.isExpression_of_ofText? read no_comma (fun mark => no_closing (piece_within mark))
    (fun mark => newline_notMem_onOneLine text (within (piece_within mark))) symbolic

/-! ## Macros -/

theorem Define.isWellFormed_of_ofLine? {line : Text} {define : Define}
    (tidy : Source.IsTidyLine line) (read : ofLine? line = some define)
    (ends : define.isContinued = false) : define.IsWellFormed := by
  obtain ⟨front, gap, gap', -, -, -, split, name_nonempty, no_space, value_nonempty, value_front⟩ :=
    ofLine?_source read
  have name_within : define.name ⊆ line := fun c member => by simp [split, member]
  have value_within : define.value ⊆ line := fun c member => by simp [split, member]
  have last : define.value.getLast? = line.getLast? := by
    rw [split, List.getLast?_append_of_ne_nil _ value_nonempty]
  refine ⟨name_nonempty, fun c member => ⟨?_, ?_, ?_⟩, value_nonempty, fun c member => ⟨?_, ?_⟩,
    value_front, fun c final => ⟨?_, ?_⟩⟩
  · exact fun space => no_space (space ▸ member)
  · exact fun tab => tidy.no_tab (tab ▸ name_within member)
  · exact fun newline => tidy.no_newline (newline ▸ name_within member)
  · exact fun tab => tidy.no_tab (tab ▸ value_within member)
  · exact fun newline => tidy.no_newline (newline ▸ value_within member)
  · exact tidy.solid_end c (last ▸ final)
  · rintro rfl
    simp [isContinued, Option.mem_def.mp final] at ends

theorem Define.isWellFormed_of_mem_ofHeader {text : Text} {define : Define}
    (member : define ∈ ofHeader text) : define.IsWellFormed := by
  obtain ⟨listed, ends⟩ := List.mem_filter.mp member
  obtain ⟨line, normal, read⟩ := List.mem_filterMap.mp listed
  exact isWellFormed_of_ofLine? (Source.isTidyLine_of_mem_normalLines normal) read
    (by simpa using ends)

/-! ## Headers -/

namespace Header

theorem isWellFormed_of_parse {filter : TypeFilter} {source text : Text} {header : Header}
    (parsed : parse filter source text = .ok header) : header.IsWellFormed := by
  cases resolved : enumsOf filter text with
  | error cause => simp [parse, resolved, Except.map] at parsed
  | ok enums =>
      rw [parse, resolved] at parsed
      obtain rfl := Except.ok.inj parsed
      constructor
      · intro block member
        exact Block.isStruct_of_mem_ofHeader (List.mem_filter.mp member).1
      · intro enum member
        obtain ⟨block, -, block_resolved⟩ := exists_mem_of_mem_mapM resolved member
        exact Enum.isWellFormed_of_resolve block_resolved
      · intro define member
        exact Define.isWellFormed_of_mem_ofHeader member

theorem IsWellFormed.merge {header other : Header} (first : header.IsWellFormed)
    (second : other.IsWellFormed) : (header.merge other).IsWellFormed where
  structs := List.forall_mem_append.mpr ⟨first.structs, second.structs⟩
  enums := List.forall_mem_append.mpr ⟨first.enums, second.enums⟩
  defines := List.forall_mem_append.mpr ⟨first.defines, second.defines⟩

/-- Every header that arises by parsing and merging is well-formed. -/
theorem Reachable.isWellFormed {header : Header} (reachable : Reachable header) :
    header.IsWellFormed := by
  induction reachable with
  | empty source => constructor <;> simp
  | parse parsed => exact isWellFormed_of_parse parsed
  | merge first second ih ih' => exact ih.merge ih'

/-- A header that is merged from a struct on three lines, and an enum with an expression. -/
theorem Reachable.isWellFormed_struct_enum :
    ((ofItems [] [.struct ⟨"s".toList, rfl⟩
        [⟨"  int a;".toList, by simp, Text.not_blank_of_getLast? rfl (by decide), by decide⟩]]
      ).merge (ofItems [] [.enum ⟨"e".toList, rfl⟩
        [⟨⟨"A".toList, rfl⟩, .expression ⟨"B + 1".toList, by simp, rfl, rfl, by decide⟩⟩]]
      )).IsWellFormed :=
  Reachable.isWellFormed (.merge (.parse (parse_item [] _)) (.parse (parse_item [] _)))

end Header
end CHeader
