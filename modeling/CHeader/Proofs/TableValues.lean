import Mathlib.Data.List.Nodup
import CHeader.Constants

/-!
# Values of a table

Every way of filling a table sets pairs in turn, so a table answers as the list of these pairs does:
the last pair of a name counts.  It is the same for layers that are laid one over the other: the
last one that has a value counts.  A table is determined by its answers.
-/

namespace CHeader

/-- If every layer decides a value that it has, and leaves it otherwise, then the last of many
layers that has the value decides it. -/
theorem foldl_eq_findSome?_or {Base Layer α : Type} {onto : Base → Layer → Base}
    (value? : Base → Option α) {layerValue? : Layer → Option α}
    (decides : ∀ base layer, value? (onto base layer) = (layerValue? layer).or (value? base))
    (base : Base) (layers : List Layer) :
    value? (layers.foldl onto base) =
      (layers.reverse.findSome? layerValue?).or (value? base) := by
  induction layers generalizing base with
  | nil => rfl
  | cons layer layers ih =>
      rw [List.foldl_cons, ih, decides, List.reverse_cons, List.findSome?_append, Option.or_assoc]
      simp

/-- The last layer that has a value stands in front of layers that do not. -/
theorem findSome?_reverse_eq_some_iff {Layer α : Type} {layerValue? : Layer → Option α}
    {layers : List Layer} {value : α} :
    layers.reverse.findSome? layerValue? = some value ↔
      ∃ front layer back, layers = front ++ layer :: back ∧ layerValue? layer = some value ∧
        ∀ later ∈ back, layerValue? later = none := by
  rw [List.findSome?_eq_some_iff]
  constructor
  · rintro ⟨back, layer, front, split, has, lacks⟩
    refine ⟨front.reverse, layer, back.reverse, ?_, has, by simpa using lacks⟩
    rw [List.reverse_eq_iff.mp split]
    simp
  · rintro ⟨front, layer, back, rfl, has, lacks⟩
    exact ⟨back.reverse, layer, front.reverse, by simp, has, by simpa using lacks⟩

namespace Constants

/-! ## Pairs -/

section Pairs

variable {α : Type}

/-- The values that pairs give to a name, in order. -/
def valuesOf (name : Text) (pairs : List (Text × α)) : List α :=
  (pairs.filter fun pair => pair.1 = name).map Prod.snd

theorem valuesOf_cons (name : Text) (pair : Text × α) (pairs : List (Text × α)) :
    valuesOf name (pair :: pairs) =
      if pair.1 = name then pair.2 :: valuesOf name pairs else valuesOf name pairs := by
  by_cases hit : pair.1 = name <;> simp [valuesOf, hit]

@[simp]
theorem valuesOf_append (name : Text) (front back : List (Text × α)) :
    valuesOf name (front ++ back) = valuesOf name front ++ valuesOf name back := by
  simp [valuesOf]

theorem valuesOf_eq_nil_iff {name : Text} {pairs : List (Text × α)} :
    valuesOf name pairs = [] ↔ name ∉ pairs.map Prod.fst := by
  rw [valuesOf, List.map_eq_nil_iff, List.filter_eq_nil_iff, List.mem_map]
  simp only [decide_eq_true_eq, not_exists, not_and]

theorem lookup_cons_eq (name : Text) (pair : Text × α) (pairs : List (Text × α)) :
    (pair :: pairs).lookup name = if name = pair.1 then some pair.2 else pairs.lookup name := by
  obtain ⟨key, value⟩ := pair
  rw [List.lookup_cons]
  by_cases same : name = key
  · simp [same]
  · simp [beq_eq_false_iff_ne.mpr same, same]

end Pairs

/-! ## Setting values -/

theorem lookup_setEntry (name other : Text) (value : Int64) (entries : List (Text × Int64)) :
    (setEntry name value entries).lookup other =
      if other = name then some value else entries.lookup other := by
  induction entries with
  | nil => rw [setEntry, lookup_cons_eq]
  | cons entry entries ih =>
      unfold setEntry
      split
      · exact lookup_cons_eq other (name, value) (entry :: entries)
      · split
        · next replaced =>
            rw [lookup_cons_eq, lookup_cons_eq, ← replaced]
            split <;> rfl
        · next different =>
            rw [lookup_cons_eq, lookup_cons_eq, ih]
            by_cases first : other = entry.1
            · rw [if_pos first, if_pos first, if_neg (first ▸ Ne.symm different)]
            · rw [if_neg first, if_neg first]

@[simp]
theorem get?_empty (name : Text) : empty.get? name = none := rfl

/-- Setting a value changes the answer for one name. -/
theorem get?_insert (table : Constants) (name other : Text) (value : Int64) :
    (table.insert name value).get? other =
      if other = name then some value else table.get? other :=
  lookup_setEntry name other value table.entries

/-- The last pair of a name counts. -/
theorem get?_insertAll (table : Constants) (pairs : List (Text × Int64)) (name : Text) :
    (table.insertAll pairs).get? name =
      (valuesOf name pairs).getLast?.or (table.get? name) := by
  induction pairs generalizing table with
  | nil => rfl
  | cons pair pairs ih =>
      rw [insertAll, List.foldl_cons, ← insertAll, ih, get?_insert, valuesOf_cons]
      by_cases hit : pair.1 = name
      · rw [if_pos hit, if_pos hit.symm, List.getLast?_cons]
        cases (valuesOf name pairs).getLast? <;> rfl
      · rw [if_neg hit, if_neg (Ne.symm hit)]

theorem insertAll_append (table : Constants) (front back : List (Text × Int64)) :
    table.insertAll (front ++ back) = (table.insertAll front).insertAll back :=
  List.foldl_append

theorem get?_ofList (pairs : List (Text × Int64)) (name : Text) :
    (ofList pairs).get? name = (valuesOf name pairs).getLast? := by
  rw [ofList, get?_insertAll, get?_empty, Option.or_none]

/-! ## The names of a table -/

/-- The names that have values, in order. -/
def names (table : Constants) : List Text :=
  table.entries.map Prod.fst

theorem ascending_names (table : Constants) : table.names.Pairwise (· < ·) :=
  List.pairwise_map.mpr table.ascending

theorem nodup_names (table : Constants) : table.names.Nodup := by
  refine table.ascending_names.imp ?_
  rintro name _ less rfl
  exact List.lt_irrefl name less

/-- No two entries have the same name. -/
theorem fresh_of_entries_eq {table : Constants} {front back : List (Text × Int64)} {name : Text}
    {value : Int64} (split : table.entries = front ++ (name, value) :: back) :
    name ∉ front.map Prod.fst ∧ name ∉ back.map Prod.fst := by
  have distinct := table.nodup_names
  rw [names, split, List.map_append, List.map_cons, List.nodup_middle] at distinct
  have fresh := (List.nodup_cons.mp distinct).1
  rwa [List.mem_append, not_or] at fresh

theorem mem_entries_iff {table : Constants} {name : Text} {value : Int64} :
    (name, value) ∈ table.entries ↔ table.get? name = some value := by
  rw [get?, List.lookup_eq_some_iff]
  constructor
  · intro member
    obtain ⟨front, back, split⟩ := List.append_of_mem member
    refine ⟨front, back, split, fun pair before => bne_iff_ne.mpr ?_⟩
    rintro rfl
    exact (fresh_of_entries_eq split).1 (List.mem_map_of_mem before)
  · rintro ⟨front, back, split, -⟩
    simp [split]

theorem mem_names_iff {table : Constants} {name : Text} :
    name ∈ table.names ↔ ∃ value, table.get? name = some value := by
  simp [names, mem_entries_iff]

/-- A table gives at most one value to a name. -/
theorem valuesOf_entries (table : Constants) (name : Text) :
    valuesOf name table.entries = (table.get? name).toList := by
  cases found : table.get? name with
  | none =>
      refine valuesOf_eq_nil_iff.mpr fun member => ?_
      obtain ⟨value, other⟩ := mem_names_iff.mp member
      simp [found] at other
  | some value =>
      obtain ⟨front, back, split⟩ := List.append_of_mem (mem_entries_iff.mpr found)
      obtain ⟨before, behind⟩ := fresh_of_entries_eq split
      rw [split, valuesOf_append, valuesOf_cons, if_pos rfl, valuesOf_eq_nil_iff.mpr before,
        valuesOf_eq_nil_iff.mpr behind]
      rfl

/-- The second table wins where both have a value. -/
theorem get?_extend (table other : Constants) (name : Text) :
    (table.extend other).get? name = (other.get? name).or (table.get? name) := by
  rw [extend, get?_insertAll, valuesOf_entries]
  cases other.get? name <;> rfl

/-- Tables with the same answers are equal. -/
theorem eq_of_get?_eq {table other : Constants} (same : ∀ name, table.get? name = other.get? name) :
    table = other := by
  have distinct (table : Constants) : table.entries.Nodup :=
    List.Nodup.of_map Prod.fst table.nodup_names
  have permuted : table.entries.Perm other.entries := by
    refine (List.perm_ext_iff_of_nodup (distinct table) (distinct other)).mpr ?_
    rintro ⟨name, value⟩
    rw [mem_entries_iff, mem_entries_iff, same]
  have entries_eq : table.entries = other.entries := by
    refine permuted.eq_of_pairwise ?_ table.ascending other.ascending
    exact fun _ _ _ _ less greater => absurd less (List.lt_asymm greater)
  cases table
  cases other
  exact Constants.mk.injEq .. ▸ entries_eq

/-! ## Values as integers -/

/-- Whether an integer is a signed 64-bit one. -/
def Fits (n : Int) : Prop :=
  -0x8000000000000000 ≤ n ∧ n ≤ 0x7fffffffffffffff

instance (n : Int) : Decidable (Fits n) :=
  inferInstanceAs (Decidable (_ ∧ _))

theorem fits_toInt (value : Int64) : Fits value.toInt :=
  ⟨value.minValue_le_toInt, value.toInt_le⟩

/-- The integer that a table has for a name. -/
def integer? (table : Constants) (name : Text) : Option Int :=
  (table.get? name).map Int64.toInt

theorem map_toInt_injective : Function.Injective (Option.map Int64.toInt) :=
  Option.map_injective fun _ _ => Int64.toInt_inj.mp

theorem integer?_eq_integer?_iff {table other : Constants} {name : Text} :
    table.integer? name = other.integer? name ↔ table.get? name = other.get? name :=
  map_toInt_injective.eq_iff

theorem map_toInt_value? (n : Int) :
    (value? n).map Int64.toInt = if Fits n then some n else none := by
  have range : (Int64.minValue.toInt ≤ n ∧ n ≤ Int64.maxValue.toInt) ↔ Fits n := Iff.rfl
  by_cases fits : Fits n
  · rw [value?, if_pos (range.mpr fits), if_pos fits, Option.map_some,
      Int64.toInt_ofInt_of_le fits.1 (Int.lt_add_one_of_le fits.2)]
  · rw [value?, if_neg (mt range.mp fits), if_neg fits, Option.map_none]

theorem map_toInt_bind_value? (found : Option Int) :
    (found.bind value?).map Int64.toInt = found.filter (Fits ·) := by
  cases found with
  | none => rfl
  | some n =>
      rw [Option.bind_some, map_toInt_value?]
      simp [Option.filter]

theorem bind_value?_eq_some_iff {found : Option Int} {value : Int64} :
    found.bind value? = some value ↔ found = some value.toInt := by
  rw [← map_toInt_injective.eq_iff, map_toInt_bind_value?, Option.map_some,
    Option.filter_eq_some_iff]
  exact and_iff_left (decide_eq_true (fits_toInt value))

/-- A pair with its value as an integer. -/
def widen (pair : Text × Int64) : Text × Int :=
  (pair.1, pair.2.toInt)

theorem valuesOf_map_widen (name : Text) (pairs : List (Text × Int64)) :
    valuesOf name (pairs.map widen) = (valuesOf name pairs).map Int64.toInt := by
  rw [valuesOf, valuesOf, List.filter_map, List.map_map, List.map_map]
  rfl

theorem integer?_insertAll (table : Constants) (pairs : List (Text × Int64)) (name : Text) :
    (table.insertAll pairs).integer? name =
      (valuesOf name (pairs.map widen)).getLast?.or (table.integer? name) := by
  rw [integer?, get?_insertAll, valuesOf_map_widen, List.getLast?_map, Option.map_or, integer?]

theorem integer?_extend (table other : Constants) (name : Text) :
    (table.extend other).integer? name = (other.integer? name).or (table.integer? name) := by
  rw [integer?, get?_extend, Option.map_or, integer?, integer?]

/-- The name of an enumerator and its integer, if that fits. -/
def enumeratorPair? (enumerator : Enumerator) : Option (Text × Int) :=
  (enumerator.value.int?.filter (Fits ·)).map fun n => (enumerator.name, n)

/-- The name of a macro and its integer, if that fits. -/
def definePair? (define : Define) : Option (Text × Int) :=
  ((IntLiteral.parse? (unparenthesized (Text.trim define.value))).filter (Fits ·)).map fun n =>
    (define.name, n)

theorem map_widen_ofEnumerator? (enumerators : List Enumerator) :
    (enumerators.filterMap ofEnumerator?).map widen = enumerators.filterMap enumeratorPair? := by
  rw [List.map_filterMap]
  refine List.filterMap_congr fun enumerator _ => ?_
  rw [ofEnumerator?, enumeratorPair?, ← map_toInt_bind_value?, Option.map_map, Option.map_map]
  rfl

theorem map_widen_ofDefine? (defines : List Define) :
    (defines.filterMap ofDefine?).map widen = defines.filterMap definePair? := by
  rw [List.map_filterMap]
  refine List.filterMap_congr fun define _ => ?_
  rw [ofDefine?, definePair?, ← map_toInt_bind_value?, Option.map_map, Option.map_map]
  rfl

theorem integer?_ofDefines (defines : List Define) (name : Text) :
    (ofDefines defines).integer? name =
      (valuesOf name (defines.filterMap definePair?)).getLast? := by
  rw [ofDefines, ofList, integer?_insertAll, map_widen_ofDefine?]
  exact Option.or_none ..

theorem integer?_absorb (table : Constants) (enum : Enum) (name : Text) :
    (table.absorb enum).integer? name =
      (valuesOf name (enum.enumerators.filterMap enumeratorPair?)).getLast?.or
        (table.integer? name) := by
  rw [absorb, integer?_insertAll, map_widen_ofEnumerator?]

end Constants
end CHeader
