import CHeader.Define
import CHeader.Enum
import CHeader.IntLiteral

/-!
# Tables of constants

A table maps names to signed 64-bit values.  Its entries are strictly ascending by name, where
names are compared character by character, so a name occurs at most once and two tables with the
same answers are equal.
-/

namespace CHeader

/-- Named integer constants. -/
structure Constants where
  /-- The names with their values. -/
  entries : List (Text × Int64)
  /-- Each name is less than all names after it. -/
  ascending : entries.Pairwise fun earlier later => earlier.1 < later.1
  deriving DecidableEq

namespace Constants

/-- The table without entries. -/
def empty : Constants :=
  ⟨[], List.Pairwise.nil⟩

instance : Inhabited Constants := ⟨empty⟩

/-- The value of a name. -/
def get? (table : Constants) (name : Text) : Option Int64 :=
  table.entries.lookup name

/-- Whether a name has a value. -/
def contains (table : Constants) (name : Text) : Bool :=
  (table.get? name).isSome

/-- The number of names. -/
def size (table : Constants) : Nat :=
  table.entries.length

/-- Sets the value of a name in ascending entries. -/
def setEntry (name : Text) (value : Int64) : List (Text × Int64) → List (Text × Int64)
  | [] => [(name, value)]
  | entry :: later =>
      if name < entry.1 then (name, value) :: entry :: later
      else if name = entry.1 then (name, value) :: later
      else entry :: setEntry name value later

theorem mem_setEntry {name : Text} {value : Int64} {entry : Text × Int64}
    {entries : List (Text × Int64)} (member : entry ∈ setEntry name value entries) :
    entry = (name, value) ∨ entry ∈ entries := by
  induction entries with
  | nil => simpa [setEntry] using member
  | cons first later ih =>
      unfold setEntry at member
      split at member
      · simpa using member
      · split at member
        · rcases List.mem_cons.mp member with same | kept
          · exact Or.inl same
          · exact Or.inr (List.mem_cons_of_mem first kept)
        · rcases List.mem_cons.mp member with same | kept
          · exact Or.inr (same ▸ List.mem_cons_self)
          · exact (ih kept).imp_right (List.mem_cons_of_mem first)

theorem ascending_setEntry (name : Text) (value : Int64) {entries : List (Text × Int64)}
    (ascending : entries.Pairwise fun earlier later => earlier.1 < later.1) :
    (setEntry name value entries).Pairwise fun earlier later => earlier.1 < later.1 := by
  induction entries with
  | nil => simp [setEntry]
  | cons first later ih =>
      obtain ⟨below, ordered⟩ := List.pairwise_cons.mp ascending
      unfold setEntry
      split
      · next less =>
          refine List.pairwise_cons.mpr ⟨?_, ascending⟩
          intro entry member
          rcases List.mem_cons.mp member with same | kept
          · exact same ▸ less
          · exact List.lt_trans less (below entry kept)
      · next notLess =>
          split
          · next same =>
              exact List.pairwise_cons.mpr ⟨fun entry kept => same ▸ below entry kept, ordered⟩
          · next different =>
              have greater : first.1 < name := by
                rcases Std.lt_trichotomy name first.1 with less | same | greater
                · exact absurd less notLess
                · exact absurd same different
                · exact greater
              refine List.pairwise_cons.mpr ⟨?_, ih ordered⟩
              intro entry member
              rcases mem_setEntry member with same | kept
              · exact same ▸ greater
              · exact below entry kept

/-- The table in which a name has the given value and all other names are as before. -/
def insert (table : Constants) (name : Text) (value : Int64) : Constants :=
  ⟨setEntry name value table.entries, ascending_setEntry name value table.ascending⟩

/-- Sets the value of a name and returns the value that it had before. -/
def exchange (table : Constants) (name : Text) (value : Int64) : Option Int64 × Constants :=
  (table.get? name, table.insert name value)

/-- Sets names to values in turn. -/
def insertAll (table : Constants) (entries : List (Text × Int64)) : Constants :=
  entries.foldl (fun table entry => table.insert entry.1 entry.2) table

/-- The table of a list of pairs, in which later pairs win. -/
def ofList (entries : List (Text × Int64)) : Constants :=
  empty.insertAll entries

/-- The union of two tables; the second wins where both have a value. -/
def extend (table other : Constants) : Constants :=
  table.insertAll other.entries

/-- The value as a signed 64-bit integer, if it is one. -/
def value? (n : Int) : Option Int64 :=
  if Int64.minValue.toInt ≤ n ∧ n ≤ Int64.maxValue.toInt then some (Int64.ofInt n) else none

/-- A text without the parentheses that enclose it, if they do. -/
def unparenthesized : Text → Text
  | '(' :: inner => if inner.getLast? = some ')' then inner.dropLast else '(' :: inner
  | text => text

/-- The constant of a macro whose value is a literal, which one pair of parentheses may enclose. -/
def ofDefine? (define : Define) : Option (Text × Int64) :=
  ((IntLiteral.parse? (unparenthesized (Text.trim define.value))).bind value?).map fun value =>
    (define.name, value)

/-- The constant of an enumerator whose value is an integer. -/
def ofEnumerator? (enumerator : Enumerator) : Option (Text × Int64) :=
  (enumerator.value.int?.bind value?).map fun value => (enumerator.name, value)

/-- The constants among macros; the last macro of a name wins. -/
def ofDefines (defines : List Define) : Constants :=
  ofList (defines.filterMap ofDefine?)

/-- Adds the constants among the enumerators of an enum. -/
def absorb (table : Constants) (enum : Enum) : Constants :=
  table.insertAll (enum.enumerators.filterMap ofEnumerator?)

end Constants
end CHeader
