import Mathlib.Data.List.Basic
import CHeader.Proofs.Blocks

/-!
# Texts that are one block

A block whose head is one word and whose body holds no brace is the only block of its text: neither
keyword is the end of the other, and no other place in front of the opening brace has a keyword with
a space behind it.
-/

namespace CHeader

theorem BlockKind.eq_of_keyword_suffix {kind other : BlockKind}
    (suffix : other.keyword <:+ kind.keyword) : other = kind := by
  revert suffix
  cases kind <;> cases other <;> decide

theorem BlockKind.space_notMem_keyword (kind : BlockKind) : ' ' ∉ kind.keyword := by
  cases kind <;> decide

theorem BlockKind.opening_notMem_keyword (kind : BlockKind) : '{' ∉ kind.keyword := by
  cases kind <;> decide

namespace BlockParts

theorem body?_append {body : Text} (nonempty : body ≠ []) (fresh : '}' ∉ body) (rest : Text) :
    body? (body ++ '}' :: ';' :: rest) = some (body, rest) := by
  have cut : Text.cut? '}' (body ++ '}' :: ';' :: rest) = some (body, ';' :: rest) :=
    Text.cut?_eq_some_iff.mpr ⟨rfl, fresh⟩
  simp [body?, cut, nonempty]

/-- An opening brace belongs to a block only if a space stands in front of it. -/
theorem ofTail?_cons_of_no_opening {text : Text} (no_opening : '{' ∉ text) (c : Char) :
    ofTail? (c :: text) = none := by
  cases found : ofTail? (c :: text) with
  | none => rfl
  | some pair =>
      obtain ⟨⟨head, body⟩, rest⟩ := pair
      have whole := ofTail?_source found
      have opening : '{' ∈ text := by
        cases head with
        | nil => simp [(List.cons.inj whole).2]
        | cons d head => simp [(List.cons.inj whole).2]
      exact absurd opening no_opening

theorem ofTail?_tail {head body : Text} (one_line : '\n' ∉ head) (nonempty : body ≠ [])
    (no_opening : '{' ∉ body) (no_closing : '}' ∉ body) :
    ofTail? (tail ⟨head, body⟩) = some (⟨head, body⟩, []) := by
  induction head with
  | nil =>
      have last : ofTail? ('{' :: (body ++ ['}', ';'])) = none :=
        ofTail?_cons_of_no_opening (by simp [no_opening]) '{'
      have written : tail ⟨[], body⟩ = ' ' :: '{' :: (body ++ ['}', ';']) := rfl
      rw [written, ofTail?_open last, body?_append nonempty no_closing]
      rfl
  | cons c head ih =>
      rw [List.mem_cons, not_or] at one_line
      exact ofTail?_cons_of_some (Ne.symm one_line.1) (ih one_line.2)

/-- The head is one word, and the braces around the body are the only ones. -/
structure IsSingle (parts : BlockParts) : Prop extends parts.IsWritten where
  one_word : ' ' ∉ parts.head
  head_opening : '{' ∉ parts.head
  body_opening : '{' ∉ parts.body

variable {parts : BlockParts}

theorem IsSingle.ofText?_toBlock (single : parts.IsSingle) (kind : BlockKind) :
    ofText? kind (parts.toBlock kind).text = some (parts, []) := by
  have written : (parts.toBlock kind).text = (kind.keyword ++ [' ']) ++ parts.tail := by
    simp [toBlock]
  rw [ofText?, written, Text.dropFront?_append, Option.bind_some]
  exact ofTail?_tail single.one_line single.body_nonempty single.body_opening single.body_closing

/-- Whatever block is written somewhere in the text has the keyword at its front. -/
theorem IsSingle.kind_eq (single : parts.IsSingle) {kind other : BlockKind} {inner : BlockParts}
    {front rest : Text}
    (split : (parts.toBlock kind).text = front ++ ((inner.toBlock other).text ++ rest)) :
    other = kind := by
  have no_opening : '{' ∉ kind.keyword ++ ' ' :: parts.head ++ [' '] := by
    simp [kind.opening_notMem_keyword, single.head_opening]
  have no_opening_behind : '{' ∉ parts.body ++ ['}', ';'] := by
    simp [single.body_opening]
  have at_opening : (kind.keyword ++ ' ' :: parts.head ++ [' ']) ++
      '{' :: (parts.body ++ ['}', ';']) =
        (front ++ other.keyword ++ ' ' :: inner.head ++ [' ']) ++
          '{' :: (inner.body ++ ['}', ';'] ++ rest) := by
    simpa [toBlock, tail] using split
  have before :=
    ((List.append_cons_inj_of_notMem no_opening no_opening_behind).mp at_opening).1
  have at_space := List.append_cancel_right before
  have keywords := ((List.append_cons_inj_of_notMem kind.space_notMem_keyword
    single.one_word).mp at_space).1
  exact BlockKind.eq_of_keyword_suffix ⟨front, keywords.symm⟩

end BlockParts

namespace Block

theorem search_eq_nil {kind : BlockKind} {text : Text}
    (no_block : ∀ front back, text = front ++ back → BlockParts.ofText? kind back = none) :
    search kind text = [] := by
  induction text with
  | nil => exact search_nil kind
  | cons c text ih =>
      rw [search_of_none (no_block [] (c :: text) rfl)]
      exact ih fun front back split => no_block (c :: front) back (by rw [split, List.cons_append])

theorem search_of_no_opening (kind : BlockKind) {text : Text} (no_opening : '{' ∉ text) :
    search kind text = [] := by
  refine search_eq_nil fun front back split => ?_
  cases found : BlockParts.ofText? kind back with
  | none => rfl
  | some pair =>
      have opening : '{' ∈ text := by
        rw [split, BlockParts.ofText?_source found]
        simp [BlockParts.toBlock, BlockParts.tail]
      exact absurd opening no_opening

/-- The text of a single block holds that block and no other. -/
theorem search_toBlock {parts : BlockParts} (single : parts.IsSingle) (kind other : BlockKind) :
    search other (parts.toBlock kind).text =
      if other = kind then [parts.toBlock kind] else [] := by
  split
  · next same =>
      subst same
      rw [search_of_some (single.ofText?_toBlock other), search_nil]
  · next different =>
      refine search_eq_nil fun front back split => ?_
      cases found : BlockParts.ofText? other back with
      | none => rfl
      | some pair =>
          rw [BlockParts.ofText?_source found] at split
          exact absurd (single.kind_eq split) different

end Block
end CHeader
