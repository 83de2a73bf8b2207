import CHeader.Proofs.SingleBlock

/-!
# How blocks divide a header

At every place of a text the reader finds a block exactly if one is written there, and takes the one
with the longest head.  So the search divides a text into blocks and gaps such that no block begins
in a gap, and there is only one such division.
-/

namespace CHeader

namespace BlockParts

variable {parts other : BlockParts} {kind : BlockKind} {text rest rest' : Text}

/-- A block with these parts is written at the front of a text. -/
structure Begins (parts : BlockParts) (kind : BlockKind) (text rest : Text) : Prop where
  source : text = kind.keyword ++ ' ' :: (parts.head ++ ' ' :: '{' ::
    (parts.body ++ '}' :: ';' :: rest))
  written : parts.IsWritten

/-- No block that is written at the same place has a longer head. -/
structure IsLongest (parts : BlockParts) (kind : BlockKind) (text rest : Text) : Prop extends
    parts.Begins kind text rest where
  longest : ∀ (other : BlockParts) (rest' : Text), other.Begins kind text rest' →
    other.head.length ≤ parts.head.length

theorem begins_iff : parts.Begins kind text rest ↔
    text = (parts.toBlock kind).text ++ rest ∧ parts.IsWritten := by
  have same : (parts.toBlock kind).text ++ rest = kind.keyword ++ ' ' :: (parts.head ++ ' ' ::
      '{' :: (parts.body ++ '}' :: ';' :: rest)) := by
    simp [toBlock, tail]
  rw [same]
  constructor
  · intro begins
    exact ⟨begins.source, begins.written⟩
  · rintro ⟨source, written⟩
    exact ⟨source, written⟩

/-- The parts of blocks at one place are the same if their heads are equally long. -/
theorem Begins.unique (begins : parts.Begins kind text rest) (also : other.Begins kind text rest')
    (same_length : parts.head.length = other.head.length) : parts = other ∧ rest = rest' := by
  have tails := (List.cons.inj (List.append_cancel_left (begins.source.symm.trans also.source))).2
  obtain ⟨heads, bodies⟩ := List.append_inj tails same_length
  have cut : Text.cut? '}' (parts.body ++ '}' :: ';' :: rest) = some (parts.body, ';' :: rest) :=
    Text.cut?_eq_some_iff.mpr ⟨rfl, begins.written.body_closing⟩
  have cut' : Text.cut? '}' (parts.body ++ '}' :: ';' :: rest) = some (other.body, ';' :: rest') :=
    Text.cut?_eq_some_iff.mpr ⟨by simpa using bodies, also.written.body_closing⟩
  obtain ⟨same_body, same_rest⟩ : parts.body = other.body ∧ rest = rest' := by
    simpa using cut.symm.trans cut'
  cases parts
  cases other
  exact ⟨by simp_all, same_rest⟩

/-! ## What the reader finds -/

/-- A block that is written behind a keyword is found, or one with a longer head. -/
theorem IsWritten.exists_ofTail?_eq_some (written : parts.IsWritten) (rest : Text) :
    ∃ found rest', ofTail? (parts.tail ++ rest) = some (found, rest') ∧
      parts.head.length ≤ found.head.length := by
  obtain ⟨head, body⟩ := parts
  obtain ⟨one_line, nonempty, no_closing⟩ := written
  dsimp only at one_line nonempty no_closing
  induction head with
  | nil =>
      have source : tail ⟨[], body⟩ ++ rest = ' ' :: '{' :: (body ++ '}' :: ';' :: rest) := by
        simp [tail]
      rw [source]
      cases behind : ofTail? ('{' :: (body ++ '}' :: ';' :: rest)) with
      | some pair => exact ⟨_, pair.2, ofTail?_cons_of_some (by decide) behind, Nat.zero_le _⟩
      | none =>
          rw [ofTail?_open behind, body?_append nonempty no_closing]
          exact ⟨_, rest, rfl, Nat.le_refl _⟩
  | cons c head ih =>
      obtain ⟨not_newline, one_line⟩ := not_or.mp (mt List.mem_cons.mpr one_line)
      obtain ⟨found, rest', behind, longer⟩ := ih one_line
      exact ⟨_, rest', ofTail?_cons_of_some (Ne.symm not_newline) behind,
        Nat.succ_le_succ longer⟩

theorem Begins.exists_ofText?_eq_some (begins : parts.Begins kind text rest) :
    ∃ found rest', ofText? kind text = some (found, rest') ∧
      parts.head.length ≤ found.head.length := by
  obtain ⟨found, rest', read, longer⟩ := begins.written.exists_ofTail?_eq_some rest
  have source : text = (kind.keyword ++ [' ']) ++ (parts.tail ++ rest) := by
    rw [(begins_iff.mp begins).1]
    simp [toBlock]
  refine ⟨found, rest', ?_, longer⟩
  rw [ofText?, source, Text.dropFront?_append, Option.bind_some, read]

theorem begins_of_ofText? (found : ofText? kind text = some (parts, rest)) :
    parts.Begins kind text rest :=
  begins_iff.mpr ⟨ofText?_source found, isWritten_of_ofText? found⟩

theorem ofText?_eq_none_iff :
    ofText? kind text = none ↔ ∀ parts rest, ¬ Begins parts kind text rest := by
  constructor
  · intro none_found parts rest begins
    obtain ⟨found, rest', read, -⟩ := begins.exists_ofText?_eq_some
    simp [none_found] at read
  · intro no_block
    exact Option.eq_none_iff_forall_ne_some.mpr fun pair read =>
      no_block pair.1 pair.2 (begins_of_ofText? read)

/-- The reader finds the block with the longest head. -/
theorem ofText?_eq_some_iff :
    ofText? kind text = some (parts, rest) ↔ parts.IsLongest kind text rest := by
  constructor
  · intro read
    refine ⟨begins_of_ofText? read, fun other rest' begins => ?_⟩
    obtain ⟨found, rest'', read', longer⟩ := begins.exists_ofText?_eq_some
    cases read.symm.trans read'
    exact longer
  · intro longest
    obtain ⟨found, rest', read, longer⟩ := longest.toBegins.exists_ofText?_eq_some
    have begins := begins_of_ofText? read
    obtain ⟨rfl, rfl⟩ := longest.toBegins.unique begins
      (Nat.le_antisymm longer (longest.longest found rest' begins))
    exact read

end BlockParts

namespace Block

variable {kind : BlockKind} {text gap later : Text} {blocks : List Block}

/-- No block begins in `gap` if `later` stands behind it. -/
def Clear (kind : BlockKind) (gap later : Text) : Prop :=
  ∀ front back, gap = front ++ back → back ≠ [] →
    ∀ parts rest, ¬ BlockParts.Begins parts kind (back ++ later) rest

/-- Blocks stand in a text one behind the other, each with the longest head that is possible at its
place, and no block begins in front of them, between two of them or behind them. -/
inductive Divides (kind : BlockKind) : Text → List Block → Prop where
  | last {gap : Text} (clear : Clear kind gap []) : Divides kind gap []
  | block {gap rest : Text} {parts : BlockParts} {blocks : List Block}
      (clear : Clear kind gap ((parts.toBlock kind).text ++ rest))
      (longest : parts.IsLongest kind ((parts.toBlock kind).text ++ rest) rest)
      (behind : Divides kind rest blocks) :
      Divides kind (gap ++ ((parts.toBlock kind).text ++ rest)) (parts.toBlock kind :: blocks)

theorem clear_nil (later : Text) : Clear kind [] later := by
  intro front back split nonempty
  exact absurd (List.append_eq_nil_iff.mp split.symm).2 nonempty

theorem clear_cons_iff {c : Char} : Clear kind (c :: gap) later ↔
    BlockParts.ofText? kind (c :: (gap ++ later)) = none ∧ Clear kind gap later := by
  rw [BlockParts.ofText?_eq_none_iff]
  constructor
  · intro clear
    refine ⟨clear [] (c :: gap) rfl (by simp), fun front back split nonempty => ?_⟩
    exact clear (c :: front) back (by rw [split, List.cons_append]) nonempty
  · rintro ⟨no_block, clear⟩ front back split nonempty
    cases front with
    | nil =>
        obtain rfl : c :: gap = back := split
        exact no_block
    | cons d front => exact clear front back (List.cons.inj split).2 nonempty

theorem search_append_of_clear (clear : Clear kind gap later) :
    search kind (gap ++ later) = search kind later := by
  induction gap with
  | nil => rfl
  | cons c gap ih =>
      obtain ⟨none_found, clear⟩ := clear_cons_iff.mp clear
      rw [List.cons_append, search_of_none none_found, ih clear]

theorem Divides.cons {c : Char} (divides : Divides kind text blocks)
    (none_found : BlockParts.ofText? kind (c :: text) = none) :
    Divides kind (c :: text) blocks := by
  cases divides with
  | last clear => exact .last (clear_cons_iff.mpr ⟨by simpa using none_found, clear⟩)
  | @block gap rest parts blocks clear longest behind =>
      have clear_cons : Clear kind (c :: gap) ((parts.toBlock kind).text ++ rest) :=
        clear_cons_iff.mpr ⟨none_found, clear⟩
      exact .block clear_cons longest behind

theorem divides_search (kind : BlockKind) (text : Text) : Divides kind text (search kind text) := by
  fun_induction search kind text with
  | case1 => exact .last (clear_nil [])
  | case2 c text parts rest found ih =>
      have longest := BlockParts.ofText?_eq_some_iff.mp found
      rw [BlockParts.ofText?_source found] at longest ⊢
      exact .block (clear_nil _) longest ih
  | case3 c text none_found ih => exact ih.cons none_found

theorem Divides.search_eq (divides : Divides kind text blocks) : search kind text = blocks := by
  induction divides with
  | @last gap clear =>
      have alone := search_append_of_clear clear
      rwa [List.append_nil, search_nil] at alone
  | block clear longest behind ih =>
      rw [search_append_of_clear clear,
        search_of_some (BlockParts.ofText?_eq_some_iff.mpr longest), ih]

/-- The blocks of a header are those that divide its normal form: they are written there one behind
the other, each with the longest head, and no block begins outside of them. -/
theorem ofHeader_eq_iff_divides (kind : BlockKind) (text : Text) (blocks : List Block) :
    ofHeader kind text = blocks ↔ Divides kind (Source.normalize text) blocks :=
  ⟨fun same => same ▸ divides_search kind (Source.normalize text), Divides.search_eq⟩

end Block
end CHeader
