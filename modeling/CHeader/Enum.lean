import CHeader.Text

/-!
# Enums

A resolved enum has a name and enumerators in the order of their declaration.  The value of an
enumerator is an integer, or the text of an expression that is not evaluated.
-/

namespace CHeader

/-- The value of an enumerator. -/
inductive EnumValue where
  | int (value : Int)
  | expr (text : Text)
  deriving DecidableEq, Repr

/-- The integer, if the value is one. -/
def EnumValue.int? : EnumValue → Option Int
  | .int value => some value
  | .expr _ => none

/-- A named member of an enum. -/
structure Enumerator where
  /-- The identifier. -/
  name : Text
  /-- The explicit value, or the one that its position gives. -/
  value : EnumValue
  deriving DecidableEq, Repr

/-- An enum with its enumerators in textual order. -/
structure Enum where
  /-- The tag. -/
  name : Text
  /-- The members. -/
  enumerators : List Enumerator
  deriving DecidableEq, Repr

/-- The value of the first enumerator of a given name. -/
def Enum.get? (enum : Enum) (name : Text) : Option EnumValue :=
  (enum.enumerators.find? fun enumerator => enumerator.name = name).map Enumerator.value

end CHeader
