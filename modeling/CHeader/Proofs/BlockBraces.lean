import Mathlib.Data.List.Basic
import CHeader.Header.Parse
import CHeader.Proofs.Resolution
import CHeader.Proofs.SingleBlock

/-!
# Where the braces of a block close

A block is read with the longest head, while the resolver of an enum looks for the first opening and
the first closing brace.  They agree unless the head itself closes a brace that it opens: then the
block holds more than one declaration, and only the first one is resolved.  This takes a line that
opens a brace behind a closing one.
-/

namespace CHeader

/-- Whether a closing brace stands somewhere behind an opening one. -/
def ClosesBrace (text : Text) : Prop :=
  ∃ front inner rest, text = front ++ '{' :: (inner ++ '}' :: rest)

/-- The first closing brace behind the first opening one is the one in front of the last
semicolon. -/
def Block.EndsAtFirstClosing (block : Block) : Prop :=
  ∃ front body, block.text = front ++ '{' :: (body ++ ['}', ';']) ∧ '{' ∉ front ∧ '}' ∉ body

/-- The body that is divided into entries runs from the first opening brace to the last closing
one. -/
def Enum.ReadsWholeBody (text : Text) : Prop :=
  ∃ front body, text = front ++ '{' :: (body ++ ['}', ';']) ∧ '{' ∉ front ∧
    body? (onOneLine text) = some (onOneLine body)

theorem closesBrace_iff {front inner : Text} (first : '{' ∉ front) :
    ClosesBrace (front ++ '{' :: inner) ↔ '}' ∈ inner := by
  constructor
  · rintro ⟨before, middle, rest, split⟩
    rcases List.append_eq_append_iff.mp split with ⟨gap, -, same⟩ | ⟨gap, whole, same⟩
    · cases gap with
      | nil => simp [(List.cons.inj same).2]
      | cons c gap => simp [(List.cons.inj same).2]
    · cases gap with
      | nil => simp [← (List.cons.inj same).2]
      | cons c gap => simp [whole, ← (List.cons.inj same).1] at first
  · intro closing
    obtain ⟨middle, rest, rfl⟩ := List.append_of_mem closing
    exact ⟨front, middle, rest, rfl⟩

theorem not_closesBrace_of_no_opening {text : Text} (no_opening : '{' ∉ text) :
    ¬ ClosesBrace text := by
  rintro ⟨front, inner, rest, rfl⟩
  simp at no_opening

namespace BlockParts

/-- A block from its first opening brace on. -/
theorem exists_opening {parts : BlockParts} (written : parts.IsWritten) (kind : BlockKind) :
    ∃ front body, (parts.toBlock kind).text = front ++ '{' :: (body ++ ['}', ';']) ∧ '{' ∉ front ∧
      ('}' ∈ body ↔ ClosesBrace parts.head) := by
  by_cases opening : '{' ∈ parts.head
  · obtain ⟨front, inner, split, first⟩ := List.eq_append_cons_of_mem opening
    refine ⟨kind.keyword ++ ' ' :: front, inner ++ ' ' :: '{' :: parts.body, ?_, ?_, ?_⟩
    · simp [toBlock, tail, split]
    · simp [kind.opening_notMem_keyword, first]
    · rw [split, closesBrace_iff first]
      simp [written.body_closing]
  · refine ⟨kind.keyword ++ ' ' :: parts.head ++ [' '], parts.body, ?_, ?_, ?_⟩
    · simp [toBlock, tail]
    · simp [kind.opening_notMem_keyword, opening]
    · exact iff_of_false written.body_closing (not_closesBrace_of_no_opening opening)

end BlockParts

/-- The first opening brace divides a text in one way. -/
theorem opening_unique {front other inner inner' : Text}
    (same : front ++ '{' :: inner = other ++ '{' :: inner') (first : '{' ∉ front)
    (first' : '{' ∉ other) : front = other ∧ inner = inner' := by
  have cut := (Text.cut?_eq_some_iff.mpr ⟨rfl, first⟩).symm.trans
    (Text.cut?_eq_some_iff.mpr ⟨same, first'⟩)
  simpa using cut

theorem Block.endsAtFirstClosing_iff_notMem {block : Block} {front body : Text}
    (split : block.text = front ++ '{' :: (body ++ ['}', ';'])) (first : '{' ∉ front) :
    block.EndsAtFirstClosing ↔ '}' ∉ body := by
  constructor
  · rintro ⟨front', body', split', first', no_closing⟩
    obtain ⟨-, same⟩ := opening_unique (split.symm.trans split') first first'
    rwa [List.append_cancel_right same]
  · exact fun no_closing => ⟨front, body, split, first, no_closing⟩

theorem Enum.readsWholeBody_iff_notMem {text front body : Text}
    (split : text = front ++ '{' :: (body ++ ['}', ';'])) (first : '{' ∉ front) :
    ReadsWholeBody text ↔ '}' ∉ body := by
  constructor
  · rintro ⟨front', body', split', first', found⟩
    obtain ⟨-, same⟩ := opening_unique (split.symm.trans split') first first'
    rw [List.append_cancel_right same]
    intro closing
    exact (body?_source found).1 (List.mem_map.mpr ⟨'}', closing, by decide⟩)
  · exact fun no_closing => ⟨front, body, split, first, body?_onOneLine split first no_closing⟩

namespace BlockParts

variable {parts : BlockParts} (written : parts.IsWritten) (kind : BlockKind)

include written

theorem toBlock_endsAtFirstClosing_iff :
    (parts.toBlock kind).EndsAtFirstClosing ↔ ¬ ClosesBrace parts.head := by
  obtain ⟨front, body, split, first, closing⟩ := exists_opening written kind
  rw [Block.endsAtFirstClosing_iff_notMem split first, closing]

theorem toBlock_readsWholeBody_iff :
    Enum.ReadsWholeBody (parts.toBlock kind).text ↔ ¬ ClosesBrace parts.head := by
  obtain ⟨front, body, split, first, closing⟩ := exists_opening written kind
  rw [Enum.readsWholeBody_iff_notMem split first, closing]

/-- A brace that the head closes is followed by the opening brace of the body on the same line. -/
theorem exists_braces_of_closesBrace (closes : ClosesBrace parts.head) :
    ∃ front gap rest, (parts.toBlock kind).text = front ++ '}' :: (gap ++ '{' :: rest) ∧
      '\n' ∉ gap := by
  obtain ⟨front, inner, behind, split⟩ := closes
  have fresh : '\n' ∉ behind := fun newline => written.one_line (by simp [split, newline])
  refine ⟨kind.keyword ++ ' ' :: (front ++ '{' :: inner), behind ++ [' '],
    parts.body ++ ['}', ';'], ?_, ?_⟩
  · simp [toBlock, tail, split]
  · simpa using fresh

end BlockParts

namespace Block

variable {kind : BlockKind} {text : Text} {block : Block}

/-- A block that is found ends at the first closing brace behind its first opening one, and the
resolver of an enum reads its whole body, exactly if its head closes no brace that it opens. -/
theorem endsAtFirstClosing_iff (found : block ∈ ofHeader kind text) :
    ∃ parts : BlockParts, parts.IsWritten ∧ block = parts.toBlock kind ∧
      (block.EndsAtFirstClosing ↔ ¬ ClosesBrace parts.head) ∧
      (Enum.ReadsWholeBody block.text ↔ ¬ ClosesBrace parts.head) := by
  obtain ⟨parts, written, rfl, -⟩ := exists_parts_of_mem_search found
  exact ⟨parts, written, rfl, BlockParts.toBlock_endsAtFirstClosing_iff written kind,
    BlockParts.toBlock_readsWholeBody_iff written kind⟩

/-- Two declarations on one line. -/
def twoEnums : Text :=
  "enum a { A }; enum b { B };".toList

/-- The head of the only block is all that stands before the second body. -/
theorem endsAtFirstClosing_iff_twoEnums :
    ∃ parts : BlockParts, parts.IsWritten ∧ ⟨twoEnums⟩ = parts.toBlock .enum ∧
      ((⟨twoEnums⟩ : Block).EndsAtFirstClosing ↔ ¬ ClosesBrace parts.head) ∧
      (Enum.ReadsWholeBody twoEnums ↔ ¬ ClosesBrace parts.head) := by
  have found : ⟨twoEnums⟩ ∈ Block.ofHeader .enum twoEnums := by decide +kernel
  exact endsAtFirstClosing_iff found

/-- The two declarations are one block that does not end at its first closing brace, and the second
of them is lost. -/
theorem twoEnums_lose_one :
    ofHeader .enum twoEnums = [⟨twoEnums⟩] ∧ ¬ (⟨twoEnums⟩ : Block).EndsAtFirstClosing ∧
      ¬ Enum.ReadsWholeBody twoEnums ∧
      Header.enumsOf {} twoEnums = .ok [⟨"a".toList, [⟨"A".toList, .int 0⟩]⟩] := by
  have one_block : ofHeader .enum twoEnums = [⟨twoEnums⟩] := by decide +kernel
  have split : twoEnums =
      "enum a ".toList ++ '{' :: (r" A }; enum b { B ".toList ++ ['}', ';']) := rfl
  have first : '{' ∉ "enum a ".toList := by decide
  have closing : ¬ '}' ∉ r" A }; enum b { B ".toList := by decide
  refine ⟨one_block, ?_, ?_, ?_⟩
  · exact fun ends => closing ((endsAtFirstClosing_iff_notMem split first).mp ends)
  · exact fun whole => closing ((Enum.readsWholeBody_iff_notMem split first).mp whole)
  · have kept : Header.blocksOf .enum {} twoEnums = [⟨twoEnums⟩] := by
      rw [Header.blocksOf, one_block]
      decide
    rw [Header.enumsOf, kept]
    rfl

/-- If no line opens a brace behind a closing one, then all blocks end at their first closing
brace. -/
theorem endsAtFirstClosing_of_lines
    (lines : ∀ front gap rest, Source.normalize text = front ++ '}' :: (gap ++ '{' :: rest) →
      '\n' ∈ gap) (found : block ∈ ofHeader kind text) :
    block.EndsAtFirstClosing ∧ Enum.ReadsWholeBody block.text := by
  obtain ⟨parts, written, rfl, before, behind, inside⟩ := exists_parts_of_mem_search found
  have open_head : ¬ ClosesBrace parts.head := by
    intro closes
    obtain ⟨front, gap, rest, split, one_line⟩ :=
      BlockParts.exists_braces_of_closesBrace written kind closes
    refine one_line (lines (before ++ front) gap (rest ++ behind) ?_)
    rw [← inside, split]
    simp
  exact ⟨(BlockParts.toBlock_endsAtFirstClosing_iff written kind).mpr open_head,
    (BlockParts.toBlock_readsWholeBody_iff written kind).mpr open_head⟩

end Block
end CHeader
