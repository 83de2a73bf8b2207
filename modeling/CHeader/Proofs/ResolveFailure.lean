import CHeader.Proofs.BlockBraces
import CHeader.Proofs.Traversal

/-!
# Failures of resolving

A declaration does not resolve if no name follows its keyword, if it closes no brace that it opens,
or if an entry of its body does not begin with an identifier; the first such entry decides.  The
blocks of a header always have a body.
-/

namespace CHeader

/-! ## Bodies -/

theorem closesBrace_onOneLine_iff {text : Text} :
    ClosesBrace (Enum.onOneLine text) ↔ ClosesBrace text := by
  -- A line break becomes a space, so a brace stands only where one stood before.
  have brace {c mark : Char} (not_space : mark ≠ ' ')
      (same : (if c = '\n' then ' ' else c) = mark) : c = mark := by
    split at same
    · exact absurd same.symm not_space
    · exact same
  constructor
  · rintro ⟨front, inner, rest, split⟩
    obtain ⟨front', behind, rfl, -, split⟩ := List.map_eq_append_iff.mp split
    obtain ⟨c, behind, rfl, opening, split⟩ := List.map_eq_cons_iff.mp split
    obtain ⟨inner', behind, rfl, -, split⟩ := List.map_eq_append_iff.mp split
    obtain ⟨d, rest', rfl, closing, -⟩ := List.map_eq_cons_iff.mp split
    obtain rfl := brace (by decide) opening
    obtain rfl := brace (by decide) closing
    exact ⟨front', inner', rest', rfl⟩
  · rintro ⟨front, inner, rest, rfl⟩
    exact ⟨Enum.onOneLine front, Enum.onOneLine inner, Enum.onOneLine rest, by
      simp [Enum.onOneLine]⟩

theorem BlockParts.closesBrace_toBlock (kind : BlockKind) (parts : BlockParts) :
    ClosesBrace (parts.toBlock kind).text :=
  ⟨kind.keyword ++ ' ' :: parts.head ++ [' '], parts.body, [';'], by simp [toBlock, tail]⟩

namespace Enum

/-- What stands between the first opening brace of a text and the first closing brace behind it. -/
def IsBody (text body : Text) : Prop :=
  ∃ front rest, text = front ++ '{' :: (body ++ '}' :: rest) ∧ '{' ∉ front ∧ '}' ∉ body

theorem exists_isBody {text : Text} (closes : ClosesBrace text) : ∃ body, IsBody text body := by
  have opening : '{' ∈ text := by
    obtain ⟨front, inner, rest, rfl⟩ := closes
    simp
  obtain ⟨front, behind, rfl, first⟩ := List.eq_append_cons_of_mem opening
  obtain ⟨body, rest, rfl, fresh⟩ :=
    List.eq_append_cons_of_mem ((closesBrace_iff first).mp closes)
  exact ⟨body, front, rest, rfl, first, fresh⟩

/-- There is a body exactly if a closing brace stands behind an opening one. -/
theorem exists_body?_iff {text : Text} : (∃ body, body? text = some body) ↔ ClosesBrace text := by
  constructor
  · rintro ⟨body, found⟩
    obtain ⟨⟨front, inner⟩, opening, found⟩ := Option.bind_eq_some_iff.mp found
    obtain ⟨⟨body', rest⟩, closing, -⟩ := Option.bind_eq_some_iff.mp found
    obtain ⟨rfl, -⟩ := Text.cut?_eq_some_iff.mp opening
    obtain ⟨rfl, -⟩ := Text.cut?_eq_some_iff.mp closing
    exact ⟨front, body', rest, rfl⟩
  · intro closes
    obtain ⟨body, front, rest, rfl, first, fresh⟩ := exists_isBody closes
    exact ⟨body, body?_append first fresh rest⟩

theorem IsBody.closesBrace {text body : Text} (isBody : IsBody text body) : ClosesBrace text := by
  obtain ⟨front, rest, rfl, -⟩ := isBody
  exact ⟨front, body, rest, rfl⟩

theorem IsBody.body?_eq {text body : Text} (isBody : IsBody text body) :
    body? (onOneLine text) = some (onOneLine body) := by
  obtain ⟨front, rest, split, first, fresh⟩ := isBody
  exact body?_onOneLine split first fresh

/-- The body that the resolver finds is the body of the declaration on one line. -/
theorem exists_isBody_of_body? {text joined : Text} (found : body? (onOneLine text) = some joined) :
    ∃ body, IsBody text body ∧ onOneLine body = joined := by
  have closes := closesBrace_onOneLine_iff.mp (exists_body?_iff.mp ⟨joined, found⟩)
  obtain ⟨body, isBody⟩ := exists_isBody closes
  exact ⟨body, isBody, Option.some.inj (isBody.body?_eq.symm.trans found)⟩

/-! ## Causes -/

/-- What is wrong with a declaration that does not resolve. -/
inductive Fault (text : Text) : ExtractError → Prop where
  /-- No name follows a keyword. -/
  | noName (unnamed : name? text = none) : Fault text (.malformedEnum .noName text)
  /-- There is no body. -/
  | noBody {name : Text} (named : name? text = some name) (open_text : ¬ ClosesBrace text) :
      Fault text (.malformedEnum (.noBody name) text)
  /-- An entry does not begin with an identifier, and those before it do. -/
  | entry {name body text' : Text} {front back : List Text} (named : name? text = some name)
      (found : body? (onOneLine text) = some body) (split : entries body = front ++ text' :: back)
      (before : ∀ earlier ∈ front, ∃ entry, Entry.ofText? earlier = some entry)
      (unread : Entry.ofText? text' = none) : Fault text (.malformedEnumerator name text')

/-- The first entry that cannot be read is at fault. -/
theorem resolveEntries_eq_error_iff {name : Text} {previous : Int} {texts : List Text}
    {cause : ExtractError} :
    resolveEntries name previous texts = .error cause ↔
      ∃ front text back, texts = front ++ text :: back ∧
        (∀ earlier ∈ front, ∃ entry, Entry.ofText? earlier = some entry) ∧
        Entry.ofText? text = none ∧ cause = .malformedEnumerator name text := by
  induction texts generalizing previous with
  | nil => simp [resolveEntries]
  | cons text texts ih =>
      rw [exists_first_cons_iff]
      cases read : Entry.ofText? text with
      | none => simp [resolveEntries, read, eq_comm]
      | some entry =>
          rw [resolveEntries_cons read, except_map_eq_error_iff, ih]
          simp

theorem resolve_of_not_closesBrace {text name : Text} (named : name? text = some name)
    (open_text : ¬ ClosesBrace text) :
    resolve text = .error (.malformedEnum (.noBody name) text) := by
  have bodiless : body? (text.map fun c => if c = '\n' then ' ' else c) = none := by
    refine Option.eq_none_iff_forall_ne_some.mpr fun body found => open_text ?_
    exact closesBrace_onOneLine_iff.mp (exists_body?_iff.mp ⟨body, found⟩)
  simp only [resolve, named, bodiless]

/-- The resolver fails exactly for the faults of a declaration. -/
theorem resolve_eq_error_iff {text : Text} {cause : ExtractError} :
    resolve text = .error cause ↔ Fault text cause := by
  constructor
  · intro failed
    cases named : name? text with
    | none =>
        simp only [resolve, named, Except.error.injEq] at failed
        exact failed ▸ .noName named
    | some name =>
        by_cases closes : ClosesBrace text
        · obtain ⟨body, found⟩ := exists_body?_iff.mpr (closesBrace_onOneLine_iff.mpr closes)
          rw [resolve_of_body? named found, except_map_eq_error_iff,
            resolveEntries_eq_error_iff] at failed
          obtain ⟨front, text', back, split, before, unread, rfl⟩ := failed
          exact .entry named found split before unread
        · rw [resolve_of_not_closesBrace named closes] at failed
          exact Except.error.inj failed ▸ .noBody named closes
  · intro fault
    cases fault with
    | noName unnamed => simp only [resolve, unnamed]
    | noBody named open_text => exact resolve_of_not_closesBrace named open_text
    | entry named found split before unread =>
        rw [resolve_of_body? named found, except_map_eq_error_iff, resolveEntries_eq_error_iff]
        exact ⟨_, _, _, split, before, unread, rfl⟩

end Enum

/-- A block of a header has a body. -/
theorem Block.exists_body_of_mem_ofHeader {kind : BlockKind} {text : Text} {block : Block}
    (found : block ∈ ofHeader kind text) :
    ∃ body, Enum.body? (Enum.onOneLine block.text) = some body := by
  obtain ⟨parts, -, rfl, -⟩ := exists_parts_of_mem_search found
  exact Enum.exists_body?_iff.mpr
    (closesBrace_onOneLine_iff.mpr (parts.closesBrace_toBlock kind))

end CHeader
