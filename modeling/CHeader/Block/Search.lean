import CHeader.Block
import CHeader.Source.Normal

/-!
# Finding blocks

A block is written `KEYWORD HEAD {BODY};` with a head that stays on one line and a nonempty body
without a closing brace.  At one position the longest head wins.  Blocks are taken from front to
back, each at the first position behind the one before it, so they never overlap.
-/

namespace CHeader

/-- The two free parts of a written block. -/
structure BlockParts where
  /-- What stands between the keyword and the opening brace, without the spaces around it. -/
  head : Text
  /-- What stands between the braces. -/
  body : Text
  deriving DecidableEq, Repr

namespace BlockParts

/-- The part of the written block that follows the keyword and one space. -/
def tail (parts : BlockParts) : Text :=
  parts.head ++ ' ' :: '{' :: parts.body ++ ['}', ';']

/-- The written block. -/
def toBlock (kind : BlockKind) (parts : BlockParts) : Block :=
  ⟨kind.keyword ++ ' ' :: parts.tail⟩

/-- The body in front of the first closing brace, and the text behind the semicolon after it. -/
def body? (text : Text) : Option (Text × Text) :=
  match Text.cut? '}' text with
  | some (body, ';' :: rest) => if body.isEmpty then none else some (body, rest)
  | _ => none

/-- Reads the part of a block that follows the keyword and one space. -/
def ofTail? : Text → Option (BlockParts × Text)
  | [] => none
  | c :: text =>
      match if c = '\n' then none else ofTail? text with
      | some (parts, rest) => some ({ parts with head := c :: parts.head }, rest)
      | none =>
          match c, text with
          | ' ', '{' :: inner => (body? inner).map fun (body, rest) => (⟨[], body⟩, rest)
          | _, _ => none

/-- Reads a block of the given kind at the front of a text. -/
def ofText? (kind : BlockKind) (text : Text) : Option (BlockParts × Text) :=
  (Text.dropFront? (kind.keyword ++ [' ']) text).bind ofTail?

theorem body?_source {text body rest : Text} (found : body? text = some (body, rest)) :
    text = body ++ '}' :: ';' :: rest ∧ '}' ∉ body ∧ body ≠ [] := by
  unfold body? at found
  split at found
  · next body' rest' cut =>
      split at found
      · simp at found
      · next nonempty =>
          simp only [Option.some.injEq, Prod.mk.injEq] at found
          obtain ⟨rfl, rfl⟩ := found
          obtain ⟨split, fresh⟩ := Text.cut?_eq_some_iff.mp cut
          exact ⟨split, fresh, by simpa using nonempty⟩
  · simp at found

theorem ofTail?_source {text rest : Text} {parts : BlockParts}
    (found : ofTail? text = some (parts, rest)) : text = parts.tail ++ rest := by
  induction text generalizing parts with
  | nil => simp [ofTail?] at found
  | cons c text ih =>
      unfold ofTail? at found
      split at found
      · next parts' rest' inner =>
          simp only [Option.some.injEq, Prod.mk.injEq] at found
          obtain ⟨rfl, rfl⟩ := found
          split at inner
          · simp at inner
          · simp [tail, ih inner]
      · split at found
        · next inner _ =>
            obtain ⟨⟨body, rest'⟩, closed, eq⟩ := Option.map_eq_some_iff.mp found
            simp only [Prod.mk.injEq] at eq
            obtain ⟨rfl, rfl⟩ := eq
            simp [tail, (body?_source closed).1]
        · simp at found

theorem ofText?_source {kind : BlockKind} {text rest : Text} {parts : BlockParts}
    (found : ofText? kind text = some (parts, rest)) :
    text = (parts.toBlock kind).text ++ rest := by
  obtain ⟨tail, keyword, read⟩ := Option.bind_eq_some_iff.mp found
  rw [Text.eq_append_of_dropFront? keyword, ofTail?_source read]
  simp [toBlock]

theorem length_lt_of_ofText? {kind : BlockKind} {text rest : Text} {parts : BlockParts}
    (found : ofText? kind text = some (parts, rest)) : rest.length < text.length := by
  have total := congrArg List.length (ofText?_source found)
  simp only [toBlock, List.length_append, List.length_cons] at total
  omega

end BlockParts

namespace Block

/-- The blocks of one kind in a text in normal form, from front to back. -/
def search (kind : BlockKind) (text : Text) : List Block :=
  match text with
  | [] => []
  | c :: later =>
      match _found : BlockParts.ofText? kind (c :: later) with
      | some (parts, rest) => parts.toBlock kind :: search kind rest
      | none => search kind later
termination_by text.length
decreasing_by
  · exact BlockParts.length_lt_of_ofText? _found
  · exact Nat.lt_succ_self later.length

/-- The blocks of one kind in a header. -/
def ofHeader (kind : BlockKind) (text : Text) : List Block :=
  search kind (Source.normalize text)

end Block
end CHeader
