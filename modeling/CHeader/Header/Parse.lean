import CHeader.Block.Search
import CHeader.Enum.Resolve
import CHeader.Header

/-!
# Parsing headers

A header is parsed into its struct blocks, its resolved enums and its macros.  A filter on tags
selects the structs and the enums.  The only failure is an enum that passes the filter and does
not resolve; the first such enum decides the error.
-/

namespace CHeader

/-- Which tags to keep. -/
structure TypeFilter where
  /-- The tags to keep; if there is none, all are kept. -/
  included : List Text := []
  /-- The tags to drop, even if they are included. -/
  excluded : List Text := []
  deriving DecidableEq, Repr

namespace TypeFilter

/-- Whether a block passes.  One without a tag passes unless tags to keep are given. -/
def keeps (filter : TypeFilter) (block : Block) : Bool :=
  match block.tag? with
  | none => filter.included.isEmpty
  | some tag => !filter.excluded.contains tag &&
      (filter.included.isEmpty || filter.included.contains tag)

end TypeFilter

namespace Header

/-- The blocks of one kind that pass the filter. -/
def blocksOf (kind : BlockKind) (filter : TypeFilter) (text : Text) : List Block :=
  (Block.ofHeader kind text).filter filter.keeps

/-- The struct blocks that pass the filter. -/
def structsOf (filter : TypeFilter) (text : Text) : List Block :=
  blocksOf .struct filter text

/-- The enums whose blocks pass the filter. -/
def enumsOf (filter : TypeFilter) (text : Text) : Except ExtractError (List Enum) :=
  (blocksOf .enum filter text).mapM fun block => Enum.resolve block.text

/-- Parses the text of a header. -/
def parse (filter : TypeFilter) (source text : Text) : Except ExtractError Header :=
  (enumsOf filter text).map fun enums =>
    { source, structs := structsOf filter text, enums, defines := Define.ofHeader text }

end Header
end CHeader
