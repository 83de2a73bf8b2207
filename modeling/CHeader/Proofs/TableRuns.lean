import Mathlib.Data.List.Dedup
import CHeader.Proofs.ByteOrder
import CHeader.Proofs.HeaderConstants

/-!
# Runs of operations on a table

A table is filled by single values, by other tables, by macros, by enums and by headers.  Each of
these writes some pairs, and whatever the operations are, the table answers with the last write.
-/

namespace CHeader
namespace Constants

/-- An operation on a table. -/
inductive Operation where
  /-- Set the value of a name. -/
  | insert (name : Text) (value : Int64)
  /-- Lay another table over this one. -/
  | extend (other : Constants)
  /-- Lay the constants among macros over the table. -/
  | extendByDefines (defines : List Define)
  /-- Add the constants among the enumerators of an enum. -/
  | absorb (enum : Enum)
  /-- Lay the constants of a header over the table. -/
  | extendByHeader (header : Header)
  deriving DecidableEq

namespace Operation

/-- What an operation makes of a table. -/
def apply (table : Constants) : Operation → Constants
  | insert name value => (table.exchange name value).2
  | extend other => table.extend other
  | extendByDefines defines => table.extend (ofDefines defines)
  | absorb enum => table.absorb enum
  | extendByHeader header => table.extend header.constants

/-- The pairs that an operation writes, in order: names with integers of 64 bits. -/
def writes : Operation → List (Text × Int)
  | insert name value => [(name, value.toInt)]
  | extend other => other.entries.map widen
  | extendByDefines defines => defines.filterMap definePair?
  | absorb enum => enum.enumerators.filterMap enumeratorPair?
  | extendByHeader header => header.definePairs ++ header.enumeratorPairs

/-- After one operation the last pair that it writes counts, or else what was there. -/
theorem integer?_apply (table : Constants) (operation : Operation) (name : Text) :
    (operation.apply table).integer? name =
      (valuesOf name operation.writes).getLast?.or (table.integer? name) := by
  cases operation with
  | insert written value => exact integer?_insertAll table [(written, value)] name
  | extend other => exact integer?_insertAll table other.entries name
  | extendByDefines defines =>
      rw [apply, integer?_extend, integer?_ofDefines, writes]
  | absorb enum => exact integer?_absorb table enum name
  | extendByHeader header =>
      rw [apply, integer?_extend, Header.integer?_constants, writes, valuesOf_append,
        List.getLast?_append, Header.enumerator?, Header.define?]

end Operation

/-- The table that operations make of the empty one. -/
def run (operations : List Operation) : Constants :=
  operations.foldl Operation.apply empty

/-- The pairs that operations write, in order. -/
def written (operations : List Operation) : List (Text × Int) :=
  operations.flatMap Operation.writes

theorem written_cons (operation : Operation) (operations : List Operation) :
    written (operation :: operations) = operation.writes ++ written operations :=
  List.flatMap_cons

theorem integer?_foldl_apply (table : Constants) (operations : List Operation) (name : Text) :
    (operations.foldl Operation.apply table).integer? name =
      (valuesOf name (written operations)).getLast?.or (table.integer? name) := by
  induction operations generalizing table with
  | nil => rfl
  | cons operation operations ih =>
      rw [List.foldl_cons, ih, Operation.integer?_apply, written_cons, valuesOf_append,
        List.getLast?_append, Option.or_assoc]

/-- A table answers with the last write. -/
theorem integer?_run (operations : List Operation) (name : Text) :
    (run operations).integer? name = (valuesOf name (written operations)).getLast? := by
  rw [run, integer?_foldl_apply]
  exact Option.or_none ..

/-- The names of a table are those that have been written. -/
theorem mem_names_run_iff {operations : List Operation} {name : Text} :
    name ∈ (run operations).names ↔ name ∈ (written operations).map Prod.fst := by
  rw [← not_iff_not, ← valuesOf_eq_nil_iff, ← List.getLast?_eq_none_iff, ← integer?_run,
    integer?, Option.map_eq_none_iff, mem_names_iff, Option.eq_none_iff_forall_ne_some, not_exists]

theorem size_run (operations : List Operation) :
    (run operations).size = ((written operations).map Prod.fst).dedup.length := by
  have permuted : (run operations).names.Perm ((written operations).map Prod.fst).dedup := by
    refine (List.perm_ext_iff_of_nodup (nodup_names _) (List.nodup_dedup _)).mpr fun name => ?_
    rw [mem_names_run_iff, List.mem_dedup]
  rw [← permuted.length_eq, names, List.length_map, size]

/-- Whatever the operations are: the names of the table ascend by their bytes, so that none occurs
twice; the values have 64 bits; a name has the value of the last write; and setting a value returns
the one before. -/
theorem run_answers_last_write (operations : List Operation) :
    ((run operations).entries.Pairwise fun earlier later =>
      Text.bytes earlier.1 < Text.bytes later.1) ∧
    ((run operations).entries.map Prod.fst).Nodup ∧
    (∀ entry ∈ (run operations).entries, Fits entry.2.toInt) ∧
    (∀ name, (run operations).integer? name = (valuesOf name (written operations)).getLast?) ∧
    (∀ name, (run operations).contains name = true ↔
      ∃ value, (run operations).get? name = some value) ∧
    (run operations).size = ((written operations).map Prod.fst).dedup.length ∧
    ∀ name value, ((run operations).exchange name value).1 = (run operations).get? name ∧
      ((run operations).exchange name value).2 = run (operations ++ [.insert name value]) := by
  refine ⟨?ascending, nodup_names _, fun entry _ => fits_toInt entry.2, integer?_run operations,
    fun name => Option.isSome_iff_exists, size_run operations, fun name value => ⟨rfl, ?next⟩⟩
  case ascending =>
    exact (run operations).ascending.imp Text.bytes_lt_bytes_iff.mpr
  case next =>
    rw [run, run, List.foldl_append]
    rfl

end Constants
end CHeader
