import CHeader.Proofs.EnumNames
import CHeader.Proofs.ResolveFailure

/-!
# Failures of parsing

Parsing a header fails exactly if an enum block that passes the filter does not resolve, and the
first such block decides the error.  So a filter that drops more tags never makes a header fail; it
takes away the enums of the blocks that it drops and no others.
-/

namespace CHeader

/-! ## The order of blocks -/

namespace Block

/-- The blocks stand in a text, one behind the other. -/
inductive StandIn : List Block → Text → Prop where
  | nil (text : Text) : StandIn [] text
  | cons (gap : Text) {block : Block} {blocks : List Block} {rest : Text}
      (behind : StandIn blocks rest) : StandIn (block :: blocks) (gap ++ (block.text ++ rest))

theorem StandIn.cons_char {blocks : List Block} {text : Text} (inside : StandIn blocks text)
    (c : Char) : StandIn blocks (c :: text) := by
  cases inside with
  | nil => exact .nil (c :: text)
  | cons gap behind => exact .cons (c :: gap) behind

theorem standIn_search (kind : BlockKind) (text : Text) : StandIn (search kind text) text := by
  fun_induction search kind text with
  | case1 => exact .nil []
  | case2 c text parts rest found ih =>
      rw [BlockParts.ofText?_source found]
      exact .cons [] ih
  | case3 c text none_found ih => exact ih.cons_char c

end Block

/-! ## Filters that drop more -/

namespace TypeFilter

/-- A filter drops, besides what another one drops, the blocks of the given tags. -/
structure AlsoExcludes (wider : TypeFilter) (tags : List Text) (filter : TypeFilter) : Prop where
  included : wider.included = filter.included
  excluded : ∀ tag, tag ∈ wider.excluded ↔ tag ∈ filter.excluded ∨ tag ∈ tags

theorem AlsoExcludes.keeps_eq {wider filter : TypeFilter} {tags : List Text}
    (also : wider.AlsoExcludes tags filter) (block : Block) :
    wider.keeps block = (filter.keeps block && !block.tag?.any tags.contains) := by
  cases tagged : block.tag? with
  | none => simp [keeps, tagged, also.included]
  | some tag =>
      have excluded : wider.excluded.contains tag =
          (filter.excluded.contains tag || tags.contains tag) := by
        rw [Bool.eq_iff_iff]
        simpa using also.excluded tag
      simp only [keeps, tagged, also.included, excluded, Option.any_some, Bool.not_or]
      ac_rfl

end TypeFilter

/-! ## The first fault -/

namespace Header

/-- The first block that passes the filter and does not resolve. -/
def FirstFault (filter : TypeFilter) (text : Text) (block : Block) (cause : ExtractError) : Prop :=
  ∃ front back, Block.ofHeader .enum text = front ++ block :: back ∧
    (∀ earlier ∈ front, filter.keeps earlier = true →
      ∃ enum, Enum.resolve earlier.text = .ok enum) ∧
    filter.keeps block = true ∧ Enum.resolve block.text = .error cause

variable {filter : TypeFilter} {source text : Text} {cause : ExtractError}

theorem enumsOf_eq_error_iff :
    enumsOf filter text = .error cause ↔ ∃ block, FirstFault filter text block cause := by
  rw [enumsOf, mapM_eq_error_iff]
  constructor
  · rintro ⟨front, block, back, split, before, failed⟩
    obtain ⟨front', behind, whole, rfl, first⟩ := List.filter_eq_append_iff.mp split
    obtain ⟨dropped, back', rfl, none_kept, kept, -⟩ := List.filter_eq_cons_iff.mp first
    refine ⟨block, front' ++ dropped, back', by rw [whole, List.append_assoc], ?_, kept, failed⟩
    intro earlier member earlier_kept
    rcases List.mem_append.mp member with member | member
    · exact before earlier (List.mem_filter.mpr ⟨member, earlier_kept⟩)
    · exact absurd earlier_kept (none_kept earlier member)
  · rintro ⟨block, front, back, whole, before, kept, failed⟩
    refine ⟨front.filter filter.keeps, block, back.filter filter.keeps, ?_, ?_, failed⟩
    · rw [blocksOf, whole, List.filter_append, List.filter_cons_of_pos kept]
    · intro earlier member
      obtain ⟨member, earlier_kept⟩ := List.mem_filter.mp member
      exact before earlier member earlier_kept

theorem parse_eq_error_iff :
    parse filter source text = .error cause ↔ enumsOf filter text = .error cause :=
  except_map_eq_error_iff

theorem exists_parse_eq_error_iff :
    (∃ cause, parse filter source text = .error cause) ↔
      ∃ block ∈ Block.ofHeader .enum text, filter.keeps block = true ∧
        ∃ cause, Enum.resolve block.text = .error cause := by
  simp only [parse_eq_error_iff]
  constructor
  · rintro ⟨cause, failed⟩
    obtain ⟨block, front, back, whole, -, kept, unresolved⟩ := enumsOf_eq_error_iff.mp failed
    exact ⟨block, by simp [whole], kept, cause, unresolved⟩
  · rintro ⟨block, listed, kept, cause, unresolved⟩
    refine except_exists_error_iff.mpr fun ⟨enums, resolved⟩ => ?_
    obtain ⟨enum, -, block_resolved⟩ :=
      exists_mem_mapM_of_mem resolved (mem_blocksOf.mpr ⟨listed, kept⟩)
    simp [unresolved] at block_resolved

/-- The error of a header is a fault of one of its blocks. -/
theorem exists_fault_of_parse (failed : parse filter source text = .error cause) :
    ∃ block ∈ Block.ofHeader .enum text, Enum.Fault block.text cause := by
  obtain ⟨block, front, back, whole, -, -, unresolved⟩ :=
    enumsOf_eq_error_iff.mp (parse_eq_error_iff.mp failed)
  exact ⟨block, by simp [whole], Enum.resolve_eq_error_iff.mp unresolved⟩

/-- No error of a header is about a count or about a missing body. -/
theorem kind_of_parse (failed : parse filter source text = .error cause) :
    (∀ declaration count, cause ≠ .invalidArrayCount declaration count) ∧
      ∀ name declaration, cause ≠ .malformedEnum (.noBody name) declaration := by
  obtain ⟨block, listed, fault⟩ := exists_fault_of_parse failed
  cases fault with
  | noName unnamed => simp
  | noBody named open_text =>
      exact absurd (closesBrace_onOneLine_iff.mp (Enum.exists_body?_iff.mp
        (Block.exists_body_of_mem_ofHeader listed))) open_text
  | entry named found split before unread => simp

/-- Dropping more tags takes away the enums of the blocks that have them. -/
theorem parse_of_alsoExcludes {wider : TypeFilter} {tags : List Text} {header : Header}
    (also : wider.AlsoExcludes tags filter) (parsed : parse filter source text = .ok header) :
    ∃ pairs : List (Block × Enum), blocksOf .enum filter text = pairs.map Prod.fst ∧
      header.enums = pairs.map Prod.snd ∧
      (∀ pair ∈ pairs, Enum.resolve pair.1.text = .ok pair.2) ∧
      ∃ remaining, parse wider source text = .ok remaining ∧ remaining.enums =
        (pairs.filter fun pair => !pair.1.tag?.any tags.contains).map Prod.snd := by
  obtain ⟨enums, resolved, rfl⟩ := except_map_eq_ok_iff.mp parsed
  obtain ⟨pairs, blocks, rfl, images⟩ := exists_pairs_of_mapM resolved
  refine ⟨pairs, blocks, rfl, images, _, except_map_eq_ok_iff.mpr ⟨_, ?_, rfl⟩, rfl⟩
  have fewer : blocksOf .enum wider text =
      (pairs.filter fun pair => !pair.1.tag?.any tags.contains).map Prod.fst := by
    have keeps : wider.keeps = fun block =>
        !block.tag?.any tags.contains && filter.keeps block :=
      funext fun block => (also.keeps_eq block).trans (Bool.and_comm _ _)
    rw [blocksOf, keeps, ← List.filter_filter, ← blocksOf, blocks, List.filter_map]
    rfl
  rw [enumsOf, fewer]
  exact mapM_pairs fun pair member => images pair (List.mem_filter.mp member).1

/-- When and how parsing a header fails.  It does so exactly if an enum block that passes the filter
does not resolve; the first of them in the text decides the error; nothing else matters; the error
is none of a count or of a missing body, since all blocks have bodies; and dropping more tags keeps
a success and all enums but those of the tags. -/
theorem parse_fails_iff (filter : TypeFilter) (source text : Text) :
    ((∃ cause, parse filter source text = .error cause) ↔
      ∃ block ∈ Block.ofHeader .enum text, filter.keeps block = true ∧
        ∃ cause, Enum.resolve block.text = .error cause) ∧
    Block.StandIn (Block.ofHeader .enum text) (Source.normalize text) ∧
    (∀ cause, parse filter source text = .error cause ↔
      ∃ block, FirstFault filter text block cause) ∧
    (∀ filter' source' text', blocksOf .enum filter' text' = blocksOf .enum filter text →
      ∀ cause, parse filter' source' text' = .error cause ↔
        parse filter source text = .error cause) ∧
    (∀ block ∈ Block.ofHeader .enum text,
      ∃ body, Enum.body? (Enum.onOneLine block.text) = some body) ∧
    (∀ cause, parse filter source text = .error cause →
      (∀ declaration count, cause ≠ .invalidArrayCount declaration count) ∧
        ∀ name declaration, cause ≠ .malformedEnum (.noBody name) declaration) ∧
    ∀ (wider : TypeFilter) tags header, wider.AlsoExcludes tags filter →
      parse filter source text = .ok header →
      ∃ pairs : List (Block × Enum), blocksOf .enum filter text = pairs.map Prod.fst ∧
        header.enums = pairs.map Prod.snd ∧
        (∀ pair ∈ pairs, Enum.resolve pair.1.text = .ok pair.2) ∧
        ∃ remaining, parse wider source text = .ok remaining ∧ remaining.enums =
          (pairs.filter fun pair => !pair.1.tag?.any tags.contains).map Prod.snd := by
  refine ⟨exists_parse_eq_error_iff, Block.standIn_search .enum _, fun cause => ?_, ?_,
    fun block found => Block.exists_body_of_mem_ofHeader found, fun cause => kind_of_parse,
    fun wider tags header => parse_of_alsoExcludes⟩
  · rw [parse_eq_error_iff, enumsOf_eq_error_iff]
  · intro filter' source' text' same cause
    rw [parse_eq_error_iff, parse_eq_error_iff, enumsOf, enumsOf, same]

end Header
end CHeader
