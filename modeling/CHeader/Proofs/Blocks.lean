import CHeader.Block.Search

/-!
# What a search for blocks finds

Every block that is found is a part of the text, with a head on one line and a body up to the first
closing brace.  The reader of a block looks past a line break only in the body: if every opening
brace of a text has a closing brace behind it, then no block that begins in the text reaches past
its end, and the text behind a line break is searched on its own.
-/

namespace CHeader

/-- Every opening brace has a closing brace behind it. -/
def BracesClosed (text : Text) : Prop :=
  ∀ front back, text = front ++ '{' :: back → '}' ∈ back

theorem BracesClosed.of_cons {c : Char} {text : Text} (closed : BracesClosed (c :: text)) :
    BracesClosed text := by
  intro front back split
  exact closed (c :: front) back (by rw [split, List.cons_append])

theorem BracesClosed.of_append {front back : Text} (closed : BracesClosed (front ++ back)) :
    BracesClosed back := by
  intro before after split
  exact closed (front ++ before) after (by rw [split, List.append_assoc])

/-- One closing brace is enough for all opening braces in front of it. -/
theorem bracesClosed_append {rest : Text} (no_opening : '{' ∉ rest) (front : Text) :
    BracesClosed (front ++ '}' :: rest) := by
  intro before after split
  rcases List.append_eq_append_iff.mp split with ⟨inner, -, within⟩ | ⟨inner, -, within⟩
  · cases inner with
    | nil => simp at within
    | cons c inner =>
        have opening : '{' ∈ rest := by simp [(List.cons.inj within).2]
        exact absurd opening no_opening
  · cases inner with
    | nil => simp at within
    | cons c inner => simp [(List.cons.inj within).2]

theorem bracesClosed_of_no_opening {text : Text} (no_opening : '{' ∉ text) : BracesClosed text := by
  rintro front back rfl
  simp at no_opening

namespace Text

theorem dropFront?_append_newline {front : Text} (one_line : '\n' ∉ front) (text later : Text) :
    dropFront? front (text ++ '\n' :: later) =
      (dropFront? front text).map (· ++ '\n' :: later) := by
  induction front generalizing text with
  | nil => rfl
  | cons f front ih =>
      rw [List.mem_cons, not_or] at one_line
      cases text with
      | nil => simp [dropFront?, Ne.symm one_line.1]
      | cons c text =>
          rw [List.cons_append, dropFront?, dropFront?, ih one_line.2]
          split <;> rfl

end Text

namespace BlockParts

/-- The outcome of a reader when more text follows a line break. -/
def beforeLine (later : Text) {α : Type} (found : α × Text) : α × Text :=
  (found.1, found.2 ++ '\n' :: later)

theorem body?_append_newline {text : Text} (closes : '}' ∈ text) (later : Text) :
    body? (text ++ '\n' :: later) = (body? text).map (beforeLine later) := by
  obtain ⟨body, rest, rfl, fresh⟩ := List.eq_append_cons_of_mem closes
  have cut : Text.cut? '}' (body ++ '}' :: rest) = some (body, rest) :=
    Text.cut?_eq_some_iff.mpr ⟨rfl, fresh⟩
  have cut_later : Text.cut? '}' (body ++ '}' :: rest ++ '\n' :: later) =
      some (body, rest ++ '\n' :: later) :=
    Text.cut?_eq_some_iff.mpr ⟨by simp, fresh⟩
  simp only [body?, cut, cut_later]
  cases rest with
  | nil => simp
  | cons c rest =>
      by_cases semicolon : c = ';'
      · subst semicolon
        cases body <;> simp [beforeLine]
      · simp [semicolon]

/-! ## The parts that are read -/

theorem toBlock_text (kind : BlockKind) (parts : BlockParts) :
    (parts.toBlock kind).text =
      (kind.keyword ++ ' ' :: parts.head ++ ' ' :: '{' :: parts.body) ++ ['}', ';'] := by
  simp [toBlock, tail]

/-- The head stays on its line, and the body is not empty and ends at the first closing brace. -/
structure IsWritten (parts : BlockParts) : Prop where
  one_line : '\n' ∉ parts.head
  body_nonempty : parts.body ≠ []
  body_closing : '}' ∉ parts.body

theorem isWritten_of_ofTail? {text rest : Text} {parts : BlockParts}
    (found : ofTail? text = some (parts, rest)) : parts.IsWritten := by
  induction text generalizing parts with
  | nil => simp [ofTail?] at found
  | cons c text ih =>
      unfold ofTail? at found
      split at found
      · next parts' rest' inner =>
          simp only [Option.some.injEq, Prod.mk.injEq] at found
          obtain ⟨rfl, rfl⟩ := found
          split at inner
          · simp at inner
          · next not_newline =>
              have written := ih inner
              refine ⟨?_, written.body_nonempty, written.body_closing⟩
              exact List.not_mem_cons_of_ne_of_not_mem (Ne.symm not_newline) written.one_line
      · split at found
        · obtain ⟨⟨body, rest'⟩, closed, same⟩ := Option.map_eq_some_iff.mp found
          simp only [Prod.mk.injEq] at same
          obtain ⟨rfl, rfl⟩ := same
          obtain ⟨-, body_closing, body_nonempty⟩ := body?_source closed
          exact ⟨by simp, body_nonempty, body_closing⟩
        · simp at found

theorem isWritten_of_ofText? {kind : BlockKind} {text rest : Text} {parts : BlockParts}
    (found : ofText? kind text = some (parts, rest)) : parts.IsWritten := by
  obtain ⟨tail, -, read⟩ := Option.bind_eq_some_iff.mp found
  exact isWritten_of_ofTail? read

/-! ## One step of the reader -/

@[simp]
theorem ofTail?_newline (text : Text) : ofTail? ('\n' :: text) = none := by
  simp [ofTail?]

/-- A longer head wins. -/
theorem ofTail?_cons_of_some {c : Char} {text rest : Text} {parts : BlockParts}
    (not_newline : c ≠ '\n') (found : ofTail? text = some (parts, rest)) :
    ofTail? (c :: text) = some ({ parts with head := c :: parts.head }, rest) := by
  simp [ofTail?, not_newline, found]

theorem ofTail?_open {inner : Text} (last : ofTail? ('{' :: inner) = none) :
    ofTail? (' ' :: '{' :: inner) = (body? inner).map fun found => (⟨[], found.1⟩, found.2) := by
  rw [ofTail?]
  simp [last]

theorem ofTail?_cons_of_none {c : Char} {text : Text} (last : ofTail? text = none)
    (no_opening : ¬ (c = ' ' ∧ text.head? = some '{')) : ofTail? (c :: text) = none := by
  rw [ofTail?, last]
  · simp
  · rintro inner rfl rfl
    exact no_opening ⟨rfl, rfl⟩

/-! ## Line breaks behind a block -/

theorem ofTail?_append_newline {text : Text} (closed : BracesClosed text) (later : Text) :
    ofTail? (text ++ '\n' :: later) = (ofTail? text).map (beforeLine later) := by
  induction text with
  | nil => exact ofTail?_newline later
  | cons c text ih =>
      have behind := ih closed.of_cons
      by_cases newline : c = '\n'
      · subst newline
        rw [List.cons_append, ofTail?_newline, ofTail?_newline]
        rfl
      · cases found : ofTail? text with
        | some pair =>
            rw [found] at behind
            rw [List.cons_append, ofTail?_cons_of_some newline behind,
              ofTail?_cons_of_some newline found]
            rfl
        | none =>
            rw [found] at behind
            by_cases opening : c = ' ' ∧ text.head? = some '{'
            · obtain ⟨rfl, first⟩ := opening
              obtain ⟨inner, rfl⟩ := List.head?_eq_some_iff.mp first
              have closes : '}' ∈ inner := closed [' '] inner rfl
              rw [List.cons_append] at behind
              rw [List.cons_append, List.cons_append, ofTail?_open behind, ofTail?_open found,
                body?_append_newline closes, Option.map_map, Option.map_map]
              rfl
            · rw [List.cons_append, ofTail?_cons_of_none behind, ofTail?_cons_of_none found opening]
              · rfl
              · rintro ⟨rfl, first⟩
                cases text with
                | nil => simp at first
                | cons d text => exact opening ⟨rfl, first⟩

theorem ofText?_append_newline (kind : BlockKind) {text : Text} (closed : BracesClosed text)
    (later : Text) :
    ofText? kind (text ++ '\n' :: later) = (ofText? kind text).map (beforeLine later) := by
  have one_line : '\n' ∉ kind.keyword ++ [' '] := by cases kind <;> decide
  rw [ofText?, ofText?, Text.dropFront?_append_newline one_line]
  cases dropped : Text.dropFront? (kind.keyword ++ [' ']) text with
  | none => rfl
  | some tail =>
      rw [Text.eq_append_of_dropFront? dropped] at closed
      exact ofTail?_append_newline closed.of_append later

end BlockParts

namespace Block

@[simp]
theorem search_nil (kind : BlockKind) : search kind [] = [] := by
  rw [search]

theorem search_of_some {kind : BlockKind} {text rest : Text} {parts : BlockParts}
    (found : BlockParts.ofText? kind text = some (parts, rest)) :
    search kind text = parts.toBlock kind :: search kind rest := by
  cases text with
  | nil => cases kind <;> simp [BlockParts.ofText?, Text.dropFront?, BlockKind.keyword] at found
  | cons c text =>
      rw [search]
      split
      · next found' =>
          rw [found] at found'
          simp only [Option.some.injEq, Prod.mk.injEq] at found'
          rw [found'.1, found'.2]
      · next none_found => simp [found] at none_found

theorem search_of_none {kind : BlockKind} {c : Char} {text : Text}
    (none_found : BlockParts.ofText? kind (c :: text) = none) :
    search kind (c :: text) = search kind text := by
  rw [search]
  split
  · next found => simp [none_found] at found
  · rfl

/-- Every block that is found stands somewhere in the text, with parts as the reader reads them. -/
theorem exists_parts_of_mem_search {kind : BlockKind} {text : Text} {block : Block}
    (member : block ∈ search kind text) :
    ∃ parts : BlockParts, parts.IsWritten ∧ block = parts.toBlock kind ∧ block.text <:+: text := by
  fun_induction search kind text with
  | case1 => simp at member
  | case2 c text parts rest found ih =>
      have whole := BlockParts.ofText?_source found
      rcases List.mem_cons.mp member with rfl | member
      · exact ⟨parts, BlockParts.isWritten_of_ofText? found, rfl, [], rest, by simp [whole]⟩
      · obtain ⟨inner, written, same, inside⟩ := ih member
        refine ⟨inner, written, same, ?_⟩
        rw [whole]
        exact inside.trans (List.suffix_append _ rest).isInfix
  | case3 c text none_found ih =>
      obtain ⟨parts, written, same, inside⟩ := ih member
      exact ⟨parts, written, same, List.infix_cons inside⟩

/-- Text behind a line break is searched on its own. -/
theorem search_append_newline (kind : BlockKind) {text : Text} (closed : BracesClosed text)
    (later : Text) :
    search kind (text ++ '\n' :: later) = search kind text ++ search kind later := by
  fun_induction search kind text with
  | case1 =>
      have no_block : BlockParts.ofText? kind ('\n' :: later) = none := by
        cases kind <;> rfl
      exact search_of_none no_block
  | case2 c text parts rest found ih =>
      have found_later : BlockParts.ofText? kind (c :: text ++ '\n' :: later) =
          some (parts, rest ++ '\n' :: later) := by
        rw [BlockParts.ofText?_append_newline kind closed, found]
        rfl
      have behind : BracesClosed rest := by
        rw [BlockParts.ofText?_source found] at closed
        exact closed.of_append
      rw [search_of_some found_later, ih behind, List.cons_append]
  | case3 c text none_found ih =>
      have none_later : BlockParts.ofText? kind (c :: text ++ '\n' :: later) = none := by
        rw [BlockParts.ofText?_append_newline kind closed, none_found]
        rfl
      rw [List.cons_append] at none_later ⊢
      rw [search_of_none none_later, ih closed.of_cons]

end Block
end CHeader
