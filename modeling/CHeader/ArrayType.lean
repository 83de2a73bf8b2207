import CHeader.Constants
import CHeader.ExtractError

/-!
# Array types

A type such as `uint8_t[LEN]` is divided into its element type and its element count.  The count
is the value of a constant of exactly that name, or else of a literal, and has to be an unsigned
64-bit integer.
-/

namespace CHeader

/-- The element count and the element type of a declared type. -/
structure ArrayType where
  /-- The number of elements; a type without brackets counts as one element. -/
  count : Nat
  /-- The text before the bracket, with all its blanks. -/
  base : Text
  deriving DecidableEq, Repr

namespace ArrayType

/-- The text before the first closing bracket, or all of it. -/
def countText (behind : Text) : Text :=
  behind.takeWhile (· ≠ ']')

/-- The number that a count denotes. -/
def countValue? (constants : Constants) (count : Text) : Option Int :=
  match constants.get? count with
  | some value => some value.toInt
  | none => IntLiteral.parse? count

/-- Splits a declared type. -/
def split (declaration : Text) (constants : Constants) : Except ExtractError ArrayType :=
  match Text.cut? '[' declaration with
  | none => .ok ⟨1, declaration⟩
  | some (base, behind) =>
      let count := countText behind
      match countValue? constants count with
      | none => .error (.invalidArrayCount declaration count)
      | some value =>
          if 0 ≤ value ∧ value < 0x10000000000000000 then .ok ⟨value.toNat, base⟩
          else .error (.invalidArrayCount declaration count)

end ArrayType
end CHeader
