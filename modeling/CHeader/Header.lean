import CHeader.Block
import CHeader.Constants

/-!
# Headers

What has been extracted from a header, or from several headers that were merged.
-/

namespace CHeader

/-- The declarations of a header. -/
structure Header where
  /-- The path that the header was read from. -/
  source : Text
  /-- The struct blocks. -/
  structs : List Block
  /-- The resolved enums. -/
  enums : List Enum
  /-- The macros. -/
  defines : List Define
  deriving DecidableEq, Repr

namespace Header

/-- A header without declarations. -/
def empty : Header :=
  ⟨[], [], [], []⟩

instance : Inhabited Header := ⟨empty⟩

/-- Appends the declarations of another header; the source stays. -/
def merge (header other : Header) : Header :=
  { header with
    structs := header.structs ++ other.structs
    enums := header.enums ++ other.enums
    defines := header.defines ++ other.defines }

/-- The constants of a header; an enumerator wins over a macro of the same name. -/
def constants (header : Header) : Constants :=
  header.enums.foldl Constants.absorb (Constants.ofDefines header.defines)

end Header
end CHeader
