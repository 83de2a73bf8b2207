import CHeader.Proofs.Concatenation
import CHeader.Proofs.Macros
import CHeader.Proofs.PrintedItems
import CHeader.Proofs.Resolution
import CHeader.Proofs.SingleBlock

/-!
# Printed headers are parsed completely

A printed declaration is its own normal form and holds at most one block.  Since it ends outside of
comments, literals and bodies, a header of printed declarations is parsed one declaration at a time,
and nothing that stands in one of them is mistaken for another one.
-/

namespace CHeader

/-! ## A printed declaration is in normal form -/

theorem Text.notMem_broken {lines : List Text} {c : Char} (not_newline : c ≠ '\n')
    (fresh : ∀ line ∈ lines, c ∉ line) : c ∉ broken lines := by
  intro member
  obtain ⟨line, listed, inside⟩ := List.mem_flatMap.mp member
  rcases List.mem_cons.mp inside with newline | within
  · exact not_newline newline
  · exact fresh line listed within

namespace Item

theorem isOrdinary_of_mem_text {item : Item} {c : Char} (member : c ∈ item.text) :
    Token.IsOrdinary c := by
  rcases Text.eq_newline_or_mem_of_mem_ofLines member with rfl | ⟨line, listed, inside⟩
  · exact ⟨by decide, by decide⟩
  · exact (item.isPrintedLine_of_mem_lines line listed).isOrdinary_of_mem inside

theorem isComplete_text (item : Item) : Token.IsComplete item.text :=
  Token.isComplete_of_ordinary fun _ => isOrdinary_of_mem_text

theorem lines_ne_nil (item : Item) : item.lines ≠ [] := by
  cases item <;> simp [lines, blockLines]

theorem normalLines_text (item : Item) : Source.normalLines item.text = item.lines := by
  have tidy : ∀ line ∈ item.lines, Source.IsTidyLine line := fun line listed =>
    (item.isPrintedLine_of_mem_lines line listed).isTidyLine
  have no_comment : Source.stripComments item.text = item.text := by
    rw [Source.stripComments, Token.scan_of_ordinary fun _ => isOrdinary_of_mem_text]
    simp [Token.isComment, Token.source, List.filter_map, Function.comp_def, List.flatMap_map]
  have pieces : item.text.splitOn '\n' = item.lines :=
    List.splitOn_intercalate '\n' (fun line listed => (tidy line listed).no_newline)
      item.lines_ne_nil
  rw [Source.normalLines_eq, no_comment, pieces, Source.tidyLines_eq_self tidy]

theorem normalize_text (item : Item) : Source.normalize item.text = item.text := by
  rw [Source.normalize, normalLines_text]
  rfl

end Item

/-! ## Printed blocks -/

/-- The parts of a block that is printed on several lines. -/
def printedParts (tag : Identifier) (body : List Text) : BlockParts :=
  ⟨tag.text, Text.broken body ++ ['\n']⟩

theorem ofLines_blockLines (kind : BlockKind) (tag : Identifier) (body : List Text) :
    Text.ofLines (blockLines kind tag body) = ((printedParts tag body).toBlock kind).text := by
  have lines : Text.broken (blockLines kind tag body) =
      '\n' :: ((printedParts tag body).toBlock kind).text := by
    have closing : Text.broken [['}', ';']] = '\n' :: '}' :: [';'] := rfl
    rw [blockLines, Text.broken_cons, Text.broken, List.flatMap_append]
    rw [← Text.broken, ← Text.broken, closing]
    simp [BlockParts.toBlock, BlockParts.tail, printedParts]
  rw [Text.broken_eq_cons_ofLines (by simp [blockLines])] at lines
  exact (List.cons.inj lines).2

theorem isSingle_printedParts {tag : Identifier} {body : List Text}
    (no_braces : ∀ line ∈ body, Avoids ['{', '}'] line) : (printedParts tag body).IsSingle where
  one_word := tag.avoids.notMem (by decide)
  one_line := tag.avoids.notMem (by decide)
  head_opening := tag.avoids.notMem (by decide)
  body_nonempty := by simp [printedParts]
  body_opening := by
    simpa [printedParts] using Text.notMem_broken (by decide) fun line listed =>
      (no_braces line listed).notMem (c := '{') (by simp)
  body_closing := by
    simpa [printedParts] using Text.notMem_broken (by decide) fun line listed =>
      (no_braces line listed).notMem (c := '}') (by simp)

theorem BlockParts.bracesClosed_toBlock (parts : BlockParts) (kind : BlockKind) :
    BracesClosed (parts.toBlock kind).text := by
  rw [toBlock_text]
  exact bracesClosed_append (by decide) _

theorem isSingle_struct (tag : Identifier) (body : List BodyLine) :
    (printedParts tag (body.map BodyLine.text)).IsSingle := by
  apply isSingle_printedParts
  rw [List.forall_mem_map]
  intro line _
  exact line.avoids.mono (by decide)

theorem isSingle_enum (tag : Identifier) (members : List Member) :
    (printedParts tag (members.map Member.line)).IsSingle := by
  apply isSingle_printedParts
  rw [List.forall_mem_map]
  intro member _
  exact avoids_append.mpr ⟨member.avoids.mono (by decide), by decide⟩

/-! ## Printed enums -/

/-- How the line of an enumerator is read. -/
def Member.entry : Member → Enum.Entry
  | ⟨name, .position⟩ => .bare name.text
  | ⟨name, .literal value _⟩ => .assigned name.text (Text.ofInt value)
  | ⟨name, .expression value⟩ => .assigned name.text value.text

theorem Member.ofText?_text (member : Member) :
    Enum.Entry.ofText? (' ' :: member.text) = some member.entry := by
  obtain ⟨name, value⟩ := member
  cases value with
  | position =>
      have space_blank : Text.isBlankText [' '] = true := by simp
      have entry := Enum.Entry.ofText?_append space_blank name.isWord
        (show ∀ c ∈ ([] : Text).head?, _ by simp)
      rw [List.append_nil] at entry
      exact entry
  | literal value in_range =>
      have entry := Enum.Entry.ofText?_assigned name.isWord (Text.ofInt value)
      rwa [IntLiteral.trim_ofInt] at entry
  | expression value =>
      have entry := Enum.Entry.ofText?_assigned name.isWord value.text
      rwa [value.trimmed] at entry

theorem Member.not_blank (member : Member) : Text.isBlankText (' ' :: member.text) = false := by
  obtain ⟨rest, split⟩ : ∃ rest, member.text = member.name.text ++ rest := by
    obtain ⟨name, value⟩ := member
    cases value with
    | position => exact ⟨[], (List.append_nil _).symm⟩
    | literal value in_range => exact ⟨_, List.append_assoc ..⟩
    | expression value => exact ⟨_, List.append_assoc ..⟩
  rw [split]
  exact member.name.isWord.not_blank [' '] rest

theorem Item.enumerators_cons (previous : Int) (member : Member) (members : List Member) :
    enumerators previous (member :: members) =
      member.entry.enumerator previous ::
        enumerators ((member.entry.enumerator previous).value.int?.getD previous) members := by
  obtain ⟨name, value⟩ := member
  cases value with
  | position => rfl
  | literal value in_range =>
      have parsed : Enum.valueOf (Text.ofInt value) = .int value := by
        rw [Enum.valueOf, IntLiteral.parse?_ofInt in_range]
      simp [enumerators, Member.entry, Enum.Entry.enumerator, parsed, EnumValue.int?]
  | expression value =>
      have kept : Enum.valueOf value.text = .expr value.text := by
        rw [Enum.valueOf, value.no_literal]
      simp [enumerators, Member.entry, Enum.Entry.enumerator, kept, EnumValue.int?]

theorem resolveEntries_members (name : Text) (previous : Int) (members : List Member) :
    Enum.resolveEntries name previous (members.map fun member => ' ' :: member.text) =
      .ok (Item.enumerators previous members) := by
  induction members generalizing previous with
  | nil => rfl
  | cons member members ih =>
      rw [List.map_cons, Enum.resolveEntries_cons member.ofText?_text, ih,
        Item.enumerators_cons]
      rfl

theorem entries_members (members : List Member) :
    Enum.entries (Enum.onOneLine (Text.broken (members.map Member.line) ++ ['\n'])) =
      members.map fun member => ' ' :: member.text := by
  induction members with
  | nil => rfl
  | cons member members ih =>
      have no_newline : '\n' ∉ member.text := member.avoids.notMem (by decide)
      have no_comma : ',' ∉ ' ' :: member.text := by
        simpa using member.avoids.notMem (c := ',') (by decide)
      have first : Enum.onOneLine (Text.broken ((member :: members).map Member.line) ++ ['\n']) =
          (' ' :: member.text) ++
            ',' :: Enum.onOneLine (Text.broken (members.map Member.line) ++ ['\n']) := by
        have line := Enum.onOneLine_eq_self no_newline
        simp only [Enum.onOneLine] at line ⊢
        simp [Member.line, line]
      rw [first, Enum.entries_append_comma no_comma member.not_blank, ih]
      rfl

theorem resolve_printed (tag : Identifier) (members : List Member) :
    Enum.resolve ((printedParts tag (members.map Member.line)).toBlock .enum).text =
      .ok ⟨tag.text, Item.enumerators (-1) members⟩ := by
  have single := isSingle_enum tag members
  have ended : ∀ c ∈ (' ' :: '{' :: (printedParts tag (members.map Member.line)).body ++
      ['}', ';']).head?, Text.isWordChar c = false := by simp
  have split : ((printedParts tag (members.map Member.line)).toBlock .enum).text =
      (BlockKind.enum.keyword ++ ' ' :: tag.text ++ [' ']) ++
        '{' :: ((printedParts tag (members.map Member.line)).body ++ '}' :: [';']) := by
    simp [BlockParts.toBlock, BlockParts.tail, printedParts]
  have head_opening : '{' ∉ tag.text := single.head_opening
  have no_opening : '{' ∉ BlockKind.enum.keyword ++ ' ' :: tag.text ++ [' '] := by
    simpa [BlockKind.opening_notMem_keyword] using head_opening
  have named : Enum.name? ((printedParts tag (members.map Member.line)).toBlock .enum).text =
      some tag.text := by
    have front := Enum.name?_of_front (List.forall_mem_nil (· = ' ')) tag.isWord ended
    rw [← front, split]
    simp
  rw [Enum.resolve_of_parts named split no_opening single.body_closing, printedParts,
    entries_members, resolveEntries_members]
  rfl

/-! ## Printed macros -/

theorem Define.ofLine?_printed (name : Identifier) (value : Replacement) :
    ofLine? ("#define ".toList ++ name.text ++ ' ' :: value.text) =
      some ⟨name.text, value.text⟩ := by
  refine ofLine?_of_isDefinedBy ⟨[], [' '], [' '], by simp, by simp, by simp, by simp,
    name.text_ne_nil, fun space => ?_, value.nonempty, fun space => ?_⟩
  · exact name.avoids ' ' space (by simp [wordMarks])
  · simpa using Text.isBlank_head?_of_trim value.trimmed space

theorem Define.filterMap_ofLine?_blockLines (kind : BlockKind) (tag : Identifier)
    {body : List Text} (no_hash : ∀ line ∈ body, '#' ∉ line) :
    (blockLines kind tag body).filterMap ofLine? = [] := by
  have opening : '#' ∉ kind.keyword ++ ' ' :: tag.text ++ [' ', '{'] := by
    have keyword : '#' ∉ kind.keyword := by cases kind <;> decide
    simpa [keyword] using tag.avoids.notMem (c := '#') (by decide)
  have closing : '#' ∉ ['}', ';'] := by decide
  rw [List.filterMap_eq_nil_iff]
  intro line listed
  rcases List.mem_cons.mp listed with rfl | listed
  · exact ofLine?_of_no_hash opening
  · rcases List.mem_append.mp listed with listed | listed
    · exact ofLine?_of_no_hash (no_hash line listed)
    · exact ofLine?_of_no_hash (List.mem_singleton.mp listed ▸ closing)

/-! ## One declaration -/

namespace Item

theorem struct_text (tag : Identifier) (body : List BodyLine) :
    (Item.struct tag body).text =
      ((printedParts tag (body.map BodyLine.text)).toBlock .struct).text :=
  ofLines_blockLines .struct tag _

theorem enum_text (tag : Identifier) (members : List Member) :
    (Item.enum tag members).text =
      ((printedParts tag (members.map Member.line)).toBlock .enum).text :=
  ofLines_blockLines .enum tag _

theorem opening_notMem_define (name : Identifier) (value : Replacement) :
    '{' ∉ (Item.define name value).text := by
  have name_avoids : '{' ∉ name.text := name.avoids.notMem (by decide)
  have value_avoids : '{' ∉ value.text := value.avoids.notMem (by decide)
  simp [text, lines, Text.ofLines, name_avoids, value_avoids]

theorem bracesClosed_text (item : Item) : BracesClosed item.text := by
  cases item with
  | struct tag body =>
      rw [struct_text]
      exact BlockParts.bracesClosed_toBlock _ .struct
  | enum tag members =>
      rw [enum_text]
      exact BlockParts.bracesClosed_toBlock _ .enum
  | define name value => exact bracesClosed_of_no_opening (opening_notMem_define name value)

theorem ofHeader_struct (item : Item) : Block.ofHeader .struct item.text = item.struct?.toList := by
  rw [Block.ofHeader, normalize_text]
  cases item with
  | struct tag body =>
      rw [struct?, struct_text, Block.search_toBlock (isSingle_struct tag body)]
      rfl
  | enum tag members =>
      rw [enum_text, Block.search_toBlock (isSingle_enum tag members)]
      rfl
  | define name value => exact Block.search_of_no_opening .struct (opening_notMem_define name value)

theorem resolve_ofHeader_enum (item : Item) :
    (Block.ofHeader .enum item.text).mapM (fun block => Enum.resolve block.text) =
      .ok item.enum?.toList := by
  rw [Block.ofHeader, normalize_text]
  cases item with
  | struct tag body =>
      rw [struct_text, Block.search_toBlock (isSingle_struct tag body)]
      rfl
  | enum tag members =>
      rw [enum_text, Block.search_toBlock (isSingle_enum tag members), if_pos rfl, List.mapM_cons,
        resolve_printed, List.mapM_nil]
      rfl
  | define name value =>
      rw [Block.search_of_no_opening .enum (opening_notMem_define name value)]
      rfl

theorem ofHeader_define (item : Item) : Define.ofHeader item.text = item.define?.toList := by
  rw [Define.ofHeader, Define.lines, normalLines_text]
  cases item with
  | struct tag body =>
      have no_hash : ∀ line ∈ body.map BodyLine.text, '#' ∉ line :=
        List.forall_mem_map.mpr fun line _ => line.avoids.notMem (by decide)
      rw [lines, Define.filterMap_ofLine?_blockLines .struct tag no_hash]
      rfl
  | enum tag members =>
      have no_hash : ∀ line ∈ members.map Member.line, '#' ∉ line := by
        refine List.forall_mem_map.mpr fun member _ => ?_
        simpa [Member.line] using member.avoids.notMem (c := '#') (by decide)
      rw [lines, Define.filterMap_ofLine?_blockLines .enum tag no_hash]
      rfl
  | define name value =>
      have ends : Define.isContinued ⟨name.text, value.text⟩ = false := by
        simpa [Define.isContinued] using value.not_continued
      rw [lines, List.filterMap_cons, Define.ofLine?_printed]
      simp [ends, define?]

end Item

namespace Header

theorem blocksOf_unfiltered (kind : BlockKind) (text : Text) :
    blocksOf kind {} text = Block.ofHeader kind text := by
  refine List.filter_eq_self.mpr fun block _ => ?_
  rw [TypeFilter.keeps]
  cases block.tag? <;> rfl

theorem parse_item (source : Text) (item : Item) :
    parse {} source item.text = .ok (ofItems source [item]) := by
  have alone : ofItems source [item] =
      ⟨source, item.struct?.toList, item.enum?.toList, item.define?.toList⟩ := by
    cases item <;> rfl
  simp only [parse, enumsOf, structsOf, blocksOf_unfiltered, item.ofHeader_struct,
    item.resolve_ofHeader_enum, item.ofHeader_define, alone]
  rfl

theorem merge_ofItems (source other : Text) (front back : List Item) :
    (ofItems source front).merge (ofItems other back) = ofItems source (front ++ back) := by
  simp [merge, ofItems]

theorem parse_nil (source : Text) : parse {} source [] = .ok (ofItems source []) := by
  simp only [parse, enumsOf, structsOf, blocksOf_unfiltered, Block.ofHeader, Source.normalize_nil,
    Block.search_nil, Define.ofHeader, Define.lines, Source.normalLines_nil]
  rfl

/-- The declarations of a printed header are found completely, in order, and with their values;
no part of one is taken for another declaration. -/
theorem parse_printed (source : Text) (items : List Item) :
    parse {} source (Text.ofLines (items.map Item.text)) = .ok (ofItems source items) := by
  induction items with
  | nil => exact parse_nil source
  | cons item items ih =>
      cases items with
      | nil =>
          rw [List.map_singleton, Text.ofLines, List.intercalate_singleton]
          exact parse_item source item
      | cons next items =>
          have joined : Text.ofLines ((item :: next :: items).map Item.text) =
              item.text ++ '\n' :: Text.ofLines ((next :: items).map Item.text) := by
            have first : Text.ofLines [item.text] = item.text := List.intercalate_singleton
            have split := Text.ofLines_append (List.cons_ne_nil item.text [])
              (List.cons_ne_nil next.text (items.map Item.text))
            rwa [first] at split
          have closed : BracesClosed (Source.normalize item.text) := by
            rw [item.normalize_text]
            exact item.bracesClosed_text
          rw [joined, parse_append_newline {} source source item.isComplete_text closed,
            parse_item, ih]
          exact congrArg Except.ok (merge_ofItems source source [item] (next :: items))

end Header

end CHeader
