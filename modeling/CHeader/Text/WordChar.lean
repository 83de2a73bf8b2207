import CHeader.Text
import CHeader.Text.CodeRange

/-!
# Characters of names

Two classes of characters make up names.  A word character may stand in the name of an enum or of
an enumerator; a tag character may stand in the tag of a block.  They agree on ASCII letters,
digits and the low line and differ beyond: a superscript is a tag character only, most combining
marks are word characters only.  Word characters are those of Unicode 16, tag characters those of
Unicode 17.
-/

namespace CHeader
namespace Text

/-- Letters, marks, decimal digits, connectors, and the two join controls, as of Unicode 16. -/
def isWordChar (c : Char) : Bool :=
  let code := c.toNat
  (CodeRange.covers CodeRange.alphabetic code || CodeRange.covers CodeRange.decimalDigits code ||
    CodeRange.covers CodeRange.connectors code || CodeRange.covers CodeRange.marks code ||
    code == 0x200C || code == 0x200D) && !CodeRange.covers CodeRange.addedLast code

/-- Letters, numbers of every kind, and the low line, as of Unicode 17. -/
def isTagChar (c : Char) : Bool :=
  let code := c.toNat
  c == '_' || CodeRange.covers CodeRange.alphabetic code ||
    CodeRange.covers CodeRange.decimalDigits code || CodeRange.covers CodeRange.otherNumbers code

end Text
end CHeader
