import CHeader.Header
import CHeader.Proofs.TableValues

/-!
# Constants of a header

A header answers for a name with its last enumerator of that name and, if it has none, with its last
macro.  So headers that are merged prefer any enumerator to any macro, while tables that are laid
one over the other prefer the later header; the two differ only in the clash of an earlier
enumerator with a later macro.
-/

namespace CHeader

namespace Constants

/-- Enums are absorbed enumerator by enumerator. -/
theorem foldl_absorb (table : Constants) (enums : List Enum) :
    enums.foldl absorb table =
      table.insertAll ((enums.flatMap Enum.enumerators).filterMap ofEnumerator?) := by
  induction enums generalizing table with
  | nil => rfl
  | cons enum enums ih =>
      rw [List.foldl_cons, ih, absorb, ← insertAll_append, List.flatMap_cons,
        List.filterMap_append]

end Constants

namespace Header

/-- The enumerators that count as constants, with their integers. -/
def enumeratorPairs (header : Header) : List (Text × Int) :=
  (header.enums.flatMap Enum.enumerators).filterMap Constants.enumeratorPair?

/-- The macros that count as constants, with their integers. -/
def definePairs (header : Header) : List (Text × Int) :=
  header.defines.filterMap Constants.definePair?

/-- The integer of the last enumerator of a name, among those that count. -/
def enumerator? (header : Header) (name : Text) : Option Int :=
  (Constants.valuesOf name header.enumeratorPairs).getLast?

/-- The integer of the last macro of a name, among those that count. -/
def define? (header : Header) (name : Text) : Option Int :=
  (Constants.valuesOf name header.definePairs).getLast?

theorem enumerator?_merge (header other : Header) (name : Text) :
    (header.merge other).enumerator? name =
      (other.enumerator? name).or (header.enumerator? name) := by
  simp [enumerator?, enumeratorPairs, merge]

theorem define?_merge (header other : Header) (name : Text) :
    (header.merge other).define? name = (other.define? name).or (header.define? name) := by
  simp [define?, definePairs, merge]

/-- The last enumerator counts, or else the last macro. -/
theorem integer?_constants (header : Header) (name : Text) :
    header.constants.integer? name = (header.enumerator? name).or (header.define? name) := by
  rw [constants, Constants.foldl_absorb, Constants.integer?_insertAll,
    Constants.map_widen_ofEnumerator?, Constants.integer?_ofDefines]
  rfl

/-- Merging headers and laying their tables one over the other give different answers exactly if the
first header has an enumerator of the name and the second one only a macro, of another value; then
the merged headers answer with the enumerator, the tables with the macro. -/
theorem get?_constants_merge_ne_iff (header other : Header) (name : Text) :
    ((header.merge other).constants.get? name ≠
        (header.constants.extend other.constants).get? name ↔
      other.enumerator? name = none ∧ ∃ value replacement,
        header.enumerator? name = some value ∧ other.define? name = some replacement ∧
          value ≠ replacement) ∧
    ∀ value replacement, other.enumerator? name = none → header.enumerator? name = some value →
      other.define? name = some replacement →
      (header.merge other).constants.integer? name = some value ∧
        (header.constants.extend other.constants).integer? name = some replacement := by
  rw [ne_eq, ← Constants.integer?_eq_integer?_iff, Constants.integer?_extend, integer?_constants,
    integer?_constants, integer?_constants, enumerator?_merge, define?_merge]
  cases later_enumerator : other.enumerator? name with
  | some value => simp
  | none =>
      cases earlier_enumerator : header.enumerator? name with
      | none => simp
      | some value =>
          cases later_define : other.define? name with
          | none => simp
          | some replacement => simp

end Header
end CHeader
