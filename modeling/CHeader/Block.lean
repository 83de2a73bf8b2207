import CHeader.Text.Blank
import CHeader.Text.WordChar

/-!
# Declaration blocks

A block is the text of one `struct … { … };` or `enum … { … };` declaration.  Its keyword and its
tag are read off its first two words.
-/

namespace CHeader

/-- The two kinds of declaration that are cut out as blocks. -/
inductive BlockKind where
  | struct
  | enum
  deriving DecidableEq, Repr

/-- The keyword that opens a declaration of this kind. -/
def BlockKind.keyword : BlockKind → Text
  | .struct => "struct".toList
  | .enum => "enum".toList

/-- The text of a declaration. -/
structure Block where
  /-- The declaration from its keyword to its closing semicolon. -/
  text : Text
  deriving DecidableEq, Repr

namespace Block

/-- The kind whose keyword is the first word of the block. -/
def kind? (block : Block) : Option BlockKind :=
  match (Text.words block.text).head? with
  | none => none
  | some word =>
      if word = BlockKind.struct.keyword then some .struct
      else if word = BlockKind.enum.keyword then some .enum
      else none

/-- The tag: the tag characters at the front of the second word, if there are any. -/
def tag? (block : Block) : Option Text :=
  match Text.words block.text with
  | _ :: second :: _ =>
      let tag := second.takeWhile Text.isTagChar
      if tag.isEmpty then none else some tag
  | _ => none

end Block
end CHeader
