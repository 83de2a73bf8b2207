import CHeader.Header.Parse
import CHeader.Proofs.PrintedItems
import CHeader.Proofs.Resolution
import CHeader.Proofs.Traversal

/-!
# Names that filters admit

A filter looks at the tag of a block, while a resolved enum has the name that the resolver finds in
the block.  So a filter keeps what it says of names exactly as far as tag and name agree.  They do
where an identifier follows the keyword.
-/

namespace CHeader

/-! ## Words -/

namespace Text

theorem words_append_blank {c : Char} (blank : isBlank c = true) (front back : Text) :
    words (front ++ c :: back) = words front ++ words back := by
  rw [words, List.splitOnP_append_cons front back blank, List.filter_append]
  rfl

theorem words_cons_blank {c : Char} (blank : isBlank c = true) (text : Text) :
    words (c :: text) = words text :=
  words_append_blank blank [] text

theorem words_blankText_append {gap : Text} (blank : isBlankText gap = true) (text : Text) :
    words (gap ++ text) = words text := by
  induction gap with
  | nil => rfl
  | cons c gap ih =>
      obtain ⟨first, later⟩ := (isBlankText_cons c gap).mp blank
      rw [List.cons_append, words_cons_blank first, ih later]

/-- The first word of a text that begins with it. -/
theorem words_word_append {word rest : Text} (nonempty : word ≠ [])
    (solid : ∀ c ∈ word, isBlank c = false) (ended : ∀ c ∈ rest.head?, isBlank c = true) :
    words (word ++ rest) = word :: words rest := by
  have alone : words word = [word] := by
    rw [words, List.splitOnP_eq_singleton solid]
    simp [nonempty]
  cases rest with
  | nil => rw [List.append_nil, alone]; rfl
  | cons c rest =>
      have blank := ended c rfl
      rw [words_append_blank blank, alone, words_cons_blank blank]
      rfl

end Text

/-! ## Tags that are identifiers -/

namespace Block

theorem isBlank_of_mem_keyword (kind : BlockKind) :
    ∀ c ∈ kind.keyword, Text.isBlank c = false := by
  have solid : kind.keyword.all (!Text.isBlank ·) = true := by cases kind <;> decide
  simpa using solid

/-- The tag of a block is read behind the spaces that follow its keyword. -/
theorem tag?_of_front {kind : BlockKind} {gap tag rest : Text} (spaces : ∀ c ∈ gap, c = ' ')
    (nonempty : tag ≠ []) (solid : ∀ c ∈ tag, Text.isBlank c = false)
    (inside : ∀ c ∈ tag, Text.isTagChar c = true)
    (ended : ∀ c ∈ rest.head?, Text.isTagChar c = false) :
    tag? ⟨kind.keyword ++ ' ' :: (gap ++ (tag ++ rest))⟩ = some tag := by
  have gap_blank : Text.isBlankText gap = true :=
    List.all_eq_true.mpr fun c member => spaces c member ▸ Text.isBlank_space
  -- The second word may go on behind the tag.
  obtain ⟨more, later, rfl, more_solid, later_blank⟩ : ∃ more later, rest = more ++ later ∧
      (∀ c ∈ more, Text.isBlank c = false) ∧ ∀ c ∈ later.head?, Text.isBlank c = true := by
    refine ⟨rest.takeWhile (!Text.isBlank ·), rest.dropWhile (!Text.isBlank ·),
      List.takeWhile_append_dropWhile.symm, fun c member => ?_, fun c first => ?_⟩
    · simpa using List.mem_takeWhile_imp member
    · simpa using Text.of_mem_head?_dropWhile first
  have second : Text.words (tag ++ (more ++ later)) = (tag ++ more) :: Text.words later := by
    rw [← List.append_assoc]
    exact Text.words_word_append (by simp [nonempty]) (List.forall_mem_append.mpr
      ⟨solid, more_solid⟩) later_blank
  have words : Text.words (kind.keyword ++ ' ' :: (gap ++ (tag ++ (more ++ later)))) =
      kind.keyword :: (tag ++ more) :: Text.words later := by
    rw [Text.words_word_append (by cases kind <;> decide) (isBlank_of_mem_keyword kind)
      (by simp), Text.words_cons_blank Text.isBlank_space, Text.words_blankText_append gap_blank,
      second]
  have tag_ended : ∀ c ∈ more.head?, Text.isTagChar c = false := by
    intro c first
    refine ended c ?_
    rw [List.head?_append, first]
    rfl
  simp [tag?, words, Text.takeWhile_append_eq_left inside tag_ended, nonempty]

/-- The block has an identifier behind its keyword, with nothing but spaces between them. -/
def HasIdentifier (block : Block) : Prop :=
  ∃ (gap : Text) (name : Identifier) (rest : Text),
    block.text = BlockKind.enum.keyword ++ ' ' :: (gap ++ (name.text ++ rest)) ∧
      (∀ c ∈ gap, c = ' ') ∧
      ∀ c ∈ rest.head?, Text.isTagChar c = false ∧ Text.isWordChar c = false

theorem HasIdentifier.tag?_eq_name? {block : Block} (identified : block.HasIdentifier) :
    block.tag? = Enum.name? block.text := by
  obtain ⟨text⟩ := block
  obtain ⟨gap, name, rest, rfl, spaces, ended⟩ := identified
  have inside : ∀ c ∈ name.text, Text.isTagChar c = true := fun _ member =>
    of_isIdentifierChar (p := fun c => Text.isTagChar c = true) (by decide +kernel)
      (name.isIdentifierChar_of_mem member)
  rw [tag?_of_front spaces name.text_ne_nil (fun _ => name.not_blank_of_mem) inside
      fun c first => (ended c first).1,
    Enum.name?_of_front spaces name.isWord fun c first => (ended c first).2]

end Block

/-! ## Filters -/

namespace TypeFilter

/-- Whether an enum of this name may be returned under the filter. -/
def Admits (filter : TypeFilter) (name : Text) : Prop :=
  name ∉ filter.excluded ∧ (filter.included ≠ [] → name ∈ filter.included)

theorem admits_of_keeps {filter : TypeFilter} {block : Block} {name : Text}
    (kept : filter.keeps block = true) (tagged : block.tag? = some name) : filter.Admits name := by
  simp only [keeps, tagged, Bool.and_eq_true, Bool.not_eq_true', Bool.or_eq_true,
    List.isEmpty_iff, List.contains_iff_mem] at kept
  obtain ⟨not_excluded, included⟩ := kept
  refine ⟨by simpa using not_excluded, fun listed => ?_⟩
  exact included.resolve_left listed

theorem keeps_congr (filter : TypeFilter) {block other : Block} (same : block.tag? = other.tag?) :
    filter.keeps block = filter.keeps other := by
  rw [keeps, keeps, same]

theorem keeps_included {tag : Text} {block : Block} :
    keeps { included := [tag] } block = true ↔ block.tag? = some tag := by
  cases tagged : block.tag? with
  | none => simp [keeps, tagged]
  | some other => simp [keeps, tagged]

theorem keeps_excluded {tags : List Text} {block : Block} :
    keeps { excluded := tags } block = true ↔ ∀ tag ∈ block.tag?, tag ∉ tags := by
  cases tagged : block.tag? with
  | none => simp [keeps, tagged]
  | some tag => simp [keeps, tagged]

/-- If a name is not the tag of a block, then some filter keeps the block and does not admit the
name; it needs to keep no other blocks than those of the same tag. -/
theorem exists_keeps_not_admits {block : Block} {name : Text} (different : block.tag? ≠ some name)
    (blocks : List Block) :
    ∃ filter : TypeFilter, filter.keeps block = true ∧ ¬ filter.Admits name ∧
      ∀ other ∈ blocks, filter.keeps other = true → other.tag? = block.tag? := by
  cases tagged : block.tag? with
  | some tag =>
      refine ⟨{ included := [tag] }, keeps_included.mpr tagged, ?_, fun other _ kept => ?_⟩
      · rintro ⟨-, included⟩
        have same : name = tag := by simpa using included (by simp)
        exact different (by rw [tagged, same])
      · exact keeps_included.mp kept
  | none =>
      refine ⟨{ excluded := name :: blocks.filterMap Block.tag? }, ?_, ?_, ?_⟩
      · rw [keeps_excluded, tagged]
        simp
      · exact fun admitted => admitted.1 List.mem_cons_self
      · intro other listed kept
        cases other_tagged : other.tag? with
        | none => rfl
        | some tag =>
            have fresh := keeps_excluded.mp kept tag other_tagged
            exact absurd (List.mem_cons_of_mem _ (List.mem_filterMap.mpr
              ⟨other, listed, other_tagged⟩)) fresh

end TypeFilter

/-! ## Enums of a header -/

namespace Header

/-- All enum blocks of a header that have this tag resolve. -/
def TagResolves (text : Text) (tag? : Option Text) : Prop :=
  ∀ block ∈ Block.ofHeader .enum text, block.tag? = tag? →
    ∃ enum, Enum.resolve block.text = .ok enum

theorem mem_blocksOf {kind : BlockKind} {filter : TypeFilter} {text : Text} {block : Block} :
    block ∈ blocksOf kind filter text ↔
      block ∈ Block.ofHeader kind text ∧ filter.keeps block = true :=
  List.mem_filter

section Returned

variable {filter : TypeFilter} {text : Text} {enums : List Enum} {enum : Enum}

/-- The block that an enum comes from. -/
theorem exists_block_of_mem_enumsOf (resolved : enumsOf filter text = .ok enums)
    (returned : enum ∈ enums) :
    ∃ block ∈ Block.ofHeader .enum text, filter.keeps block = true ∧
      TagResolves text block.tag? ∧ Enum.name? block.text = some enum.name := by
  obtain ⟨block, member, block_resolved⟩ := exists_mem_of_mem_mapM resolved returned
  obtain ⟨listed, kept⟩ := mem_blocksOf.mp member
  refine ⟨block, listed, kept, fun other other_listed same => ?_,
    (Enum.exists_parts_of_resolve block_resolved).1⟩
  have other_kept : filter.keeps other = true := (filter.keeps_congr same).trans kept
  obtain ⟨other_enum, -, other_resolved⟩ :=
    exists_mem_mapM_of_mem resolved (mem_blocksOf.mpr ⟨other_listed, other_kept⟩)
  exact ⟨other_enum, other_resolved⟩

theorem admits_of_mem_enumsOf (resolved : enumsOf filter text = .ok enums)
    (agree : ∀ block ∈ Block.ofHeader .enum text, TagResolves text block.tag? →
      block.tag? = Enum.name? block.text)
    (returned : enum ∈ enums) : filter.Admits enum.name := by
  obtain ⟨block, listed, kept, resolves, named⟩ := exists_block_of_mem_enumsOf resolved returned
  exact TypeFilter.admits_of_keeps kept ((agree block listed resolves).trans named)

/-- A filter can select the blocks of one tag, so that it returns an enum that it does not admit. -/
theorem exists_enumsOf_not_admits {block : Block} (listed : block ∈ Block.ofHeader .enum text)
    (resolves : TagResolves text block.tag?) (different : block.tag? ≠ Enum.name? block.text) :
    ∃ filter enums, enumsOf filter text = .ok enums ∧
      ∃ enum ∈ enums, ¬ filter.Admits enum.name := by
  obtain ⟨enum, resolved⟩ := resolves block listed rfl
  rw [(Enum.exists_parts_of_resolve resolved).1] at different
  obtain ⟨filter, kept, not_admitted, only⟩ :=
    TypeFilter.exists_keeps_not_admits different (Block.ofHeader .enum text)
  have each : ∀ other ∈ blocksOf .enum filter text, ∃ enum, Enum.resolve other.text = .ok enum := by
    intro other member
    obtain ⟨other_listed, other_kept⟩ := mem_blocksOf.mp member
    exact resolves other other_listed (only other other_listed other_kept)
  obtain ⟨enums, all_resolved⟩ := exists_mapM_eq_ok each
  obtain ⟨other, returned, same⟩ :=
    exists_mem_mapM_of_mem all_resolved (mem_blocksOf.mpr ⟨listed, kept⟩)
  obtain rfl := Except.ok.inj (resolved.symm.trans same)
  exact ⟨filter, enums, all_resolved, enum, returned, not_admitted⟩

/-- Filters are respected by the enums whose keywords are followed by identifiers. -/
theorem admits_of_hasIdentifier
    (identified : ∀ block ∈ Block.ofHeader .enum text, block.HasIdentifier)
    (resolved : enumsOf filter text = .ok enums) (returned : enum ∈ enums) :
    filter.Admits enum.name :=
  admits_of_mem_enumsOf resolved
    (fun block listed _ => (identified block listed).tag?_eq_name?) returned

end Returned

/-- The enums of a header have names that the filter admits, whatever the filter, exactly if each
block that a filter can select without a failure has its name as its tag.  A filter can do that if
all blocks of the same tag resolve. -/
theorem enumsOf_admits_iff (text : Text) :
    (∀ filter enums, enumsOf filter text = .ok enums → ∀ enum ∈ enums, filter.Admits enum.name) ↔
      ∀ block ∈ Block.ofHeader .enum text, TagResolves text block.tag? →
        block.tag? = Enum.name? block.text := by
  constructor
  · intro admitted block listed resolves
    by_contra different
    obtain ⟨filter, enums, resolved, enum, returned, not_admitted⟩ :=
      exists_enumsOf_not_admits listed resolves different
    exact not_admitted (admitted filter enums resolved enum returned)
  · exact fun agree filter enums resolved enum returned =>
      admits_of_mem_enumsOf resolved agree returned

/-- A combining accent belongs to the name of an enum and not to the tag of its block, so that an
enum is returned although its name is excluded. -/
theorem enumsOf_not_admits_accent :
    enumsOf { excluded := ["e\u0301".toList] } "enum e\u0301 { A };".toList =
        .ok [⟨"e\u0301".toList, [⟨"A".toList, .int 0⟩]⟩] ∧
      ¬ TypeFilter.Admits { excluded := ["e\u0301".toList] } "e\u0301".toList := by
  have kept : blocksOf .enum { excluded := ["e\u0301".toList] }
      "enum e\u0301 { A };".toList = [⟨"enum e\u0301 { A };".toList⟩] := by
    decide +kernel
  refine ⟨?_, fun admitted => admitted.1 List.mem_cons_self⟩
  rw [enumsOf, kept]
  rfl

end Header
end CHeader
