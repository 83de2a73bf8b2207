import CHeader.Proofs.EnumCounting

/-!
# Bounds of the enum counter

The resolver counts up from the last integer, entry by entry, whether or not it fails in the end.
Literals are integers of 64 bits and each entry adds at most one to them, so the counter stays near
them, and far within 128 bits for any text that fits into a memory.
-/

namespace CHeader
namespace Enum

/-- The resolver has processed some entries of a declaration: their number, the last integer so far,
and the entries that are left. -/
inductive Resolving (text : Text) : Nat → Int → List Text → Prop where
  | start {name body : Text} (named : name? text = some name) (isBody : IsBody text body) :
      Resolving text 0 (-1) (pieces body)
  | next {count : Nat} {previous : Int} {piece : Text} {rest : List Text} {entry : Entry}
      (resolving : Resolving text count previous (piece :: rest))
      (read : Entry.ofText? piece = some entry) :
      Resolving text (count + 1) ((entry.enumerator previous).value.int?.getD previous) rest

/-- The range of an integer that some entries have been counted up to. -/
def WithinCount (count : Nat) (value : Int) : Prop :=
  -0x8000000000000000 ≤ value ∧ value ≤ 0xffffffffffffffff + count

/-- Whether an integer is a signed 128-bit one. -/
def FitsCounter (value : Int) : Prop :=
  -2 ^ 127 ≤ value ∧ value < 2 ^ 127

variable {text : Text} {count : Nat} {previous : Int} {rest : List Text}

/-! ## The run -/

/-- The outcome is that of the entries that are left, behind one enumerator for each that has been
processed. -/
theorem Resolving.resolve_eq (resolving : Resolving text count previous rest) :
    ∃ name enumerators, enumerators.length = count ∧
      resolve text = (resolveEntries name previous rest).map fun later =>
        ⟨name, enumerators ++ later⟩ := by
  induction resolving with
  | start named isBody => exact ⟨_, [], rfl, resolve_of_body? named isBody.body?_eq⟩
  | @next count previous piece rest entry _ read ih =>
      obtain ⟨name, enumerators, counted, outcome⟩ := ih
      refine ⟨name, enumerators ++ [entry.enumerator previous], by simp [counted], ?_⟩
      rw [outcome, resolveEntries_cons read]
      cases resolveEntries name _ rest <;> simp [Except.map]

/-- The resolver gets past all entries in front of the first one that cannot be read. -/
theorem exists_resolving {name body : Text} (named : name? text = some name)
    (isBody : IsBody text body) {front : List Text} (split : pieces body = front ++ rest)
    (read : ∀ piece ∈ front, ∃ entry, Entry.ofText? piece = some entry) :
    ∃ previous, Resolving text front.length previous rest := by
  induction front using List.reverseRecOn generalizing rest with
  | nil =>
      rw [List.nil_append] at split
      exact ⟨-1, split ▸ .start named isBody⟩
  | append_singleton front piece ih =>
      obtain ⟨front_read, piece_read⟩ := List.forall_mem_append.mp read
      obtain ⟨entry, piece_read⟩ := piece_read piece List.mem_cons_self
      rw [List.append_assoc] at split
      obtain ⟨previous, resolving⟩ := ih split front_read
      rw [List.length_append]
      exact ⟨_, resolving.next piece_read⟩

theorem exists_resolving_of_resolveEntries {name : Text} {enumerators : List Enumerator}
    (resolving : Resolving text count previous rest)
    (resolved : resolveEntries name previous rest = .ok enumerators) {index : Nat}
    {enumerator : Enumerator} (found : enumerators[index]? = some enumerator) :
    ∃ before piece behind entry, Resolving text (count + index) before (piece :: behind) ∧
      Entry.ofText? piece = some entry ∧ enumerator = entry.enumerator before := by
  induction index generalizing count previous rest enumerators with
  | zero =>
      cases rest with
      | nil => simp [← Except.ok.inj resolved] at found
      | cons piece rest =>
          obtain ⟨entry, later, read, -, rfl⟩ := resolveEntries_cons_eq_ok_iff.mp resolved
          exact ⟨previous, piece, rest, entry, resolving, read, by simpa using found.symm⟩
  | succ index ih =>
      cases rest with
      | nil => simp [← Except.ok.inj resolved] at found
      | cons piece rest =>
          obtain ⟨entry, later, read, later_resolved, rfl⟩ :=
            resolveEntries_cons_eq_ok_iff.mp resolved
          rw [List.getElem?_cons_succ] at found
          obtain ⟨before, piece', behind, entry', reached, found⟩ :=
            ih (resolving.next read) later_resolved found
          rw [Nat.add_right_comm] at reached
          exact ⟨before, piece', behind, entry', reached, found⟩

/-- Every enumerator of a resolved enum comes from the counter as it was in front of its entry. -/
theorem exists_resolving_of_resolve {enum : Enum} (resolved : resolve text = .ok enum) {index : Nat}
    {enumerator : Enumerator} (found : enum.enumerators[index]? = some enumerator) :
    ∃ before piece behind entry, Resolving text index before (piece :: behind) ∧
      Entry.ofText? piece = some entry ∧ enumerator = entry.enumerator before := by
  obtain ⟨body, isBody⟩ := exists_isBody_of_resolve resolved
  have start := Resolving.start (exists_parts_of_resolve resolved).1 isBody
  have entries_resolved := resolveEntries_of_isBody resolved isBody
  obtain ⟨before, piece, behind, entry, reached, found⟩ :=
    exists_resolving_of_resolveEntries start entries_resolved found
  rw [Nat.zero_add] at reached
  exact ⟨before, piece, behind, entry, reached, found⟩

/-! ## Bounds -/

/-- The range of the counter behind some entries.  The first entry sets it to a literal at most, so
it stays one below what entries are counted up to. -/
def CounterWithin (count : Nat) (previous : Int) : Prop :=
  -0x8000000000000000 ≤ previous ∧ previous < 0xffffffffffffffff + count

theorem Yields.withinCount {piece : Text} {enumerator : Enumerator}
    (yields : Yields previous piece enumerator) (within : CounterWithin count previous) :
    ∀ value ∈ enumerator.value.int?, WithinCount count value := by
  obtain ⟨least, below⟩ := within
  cases yields with
  | bare unassigned =>
      rintro _ ⟨⟩
      constructor <;> omega
  | literal assigned read =>
      obtain ⟨lower, upper⟩ := IntLiteral.inRange_of_parse? read
      rintro _ ⟨⟩
      constructor <;> omega
  | symbolic assigned unread => exact fun _ integer => nomatch integer

/-- What one entry makes of the counter. -/
theorem Yields.counterWithin {piece : Text} {enumerator : Enumerator}
    (yields : Yields previous piece enumerator) (within : CounterWithin count previous) :
    CounterWithin (count + 1) (enumerator.value.int?.getD previous) := by
  have integer := yields.withinCount within
  cases found : enumerator.value.int? with
  | some value =>
      obtain ⟨least, most⟩ := integer value found
      exact ⟨least, by rw [Option.getD_some]; omega⟩
  | none =>
      obtain ⟨least, below⟩ := within
      exact ⟨least, by rw [Option.getD_none]; omega⟩

theorem Resolving.counterWithin (resolving : Resolving text count previous rest) :
    CounterWithin count previous := by
  induction resolving with
  | start => exact ⟨by decide, by decide⟩
  | next _ read ih => exact (Entry.yields read _).counterWithin ih

/-! ## The number of entries -/

theorem length_splitOn_le (mark : Char) (text : Text) :
    (text.splitOn mark).length ≤ text.length + 1 := by
  rw [List.splitOn]
  induction text with
  | nil => simp
  | cons c text ih =>
      rw [List.splitOnP_cons_eq_if_modifyHead]
      split <;> simp <;> omega

theorem IsBody.length_pieces_le {body : Text} (isBody : IsBody text body) :
    (pieces body).length ≤ text.length := by
  obtain ⟨front, behind, rfl, -⟩ := isBody
  have split := length_splitOn_le ',' (onOneLine body)
  have same_length : (onOneLine body).length = body.length := List.length_map _
  calc (pieces body).length ≤ ((onOneLine body).splitOn ',').length := List.length_filter_le _ _
    _ ≤ body.length + 1 := same_length ▸ split
    _ ≤ _ := by simp; omega

theorem Resolving.count_add_length_le (resolving : Resolving text count previous rest) :
    count + rest.length ≤ text.length := by
  induction resolving with
  | start named isBody => simpa using isBody.length_pieces_le
  | next _ _ ih =>
      rw [List.length_cons] at ih
      omega

/-- The resolver gets past all entries in front of the first one that cannot be read.  Whatever
comes of it, its counter lies between the least literal and the greatest one plus the number of
entries behind it, so that in a text of less than 2 ^ 126 characters the next integer fits into 128
bits.  If the text resolves, the integer of each enumerator lies between the least literal and the
greatest one plus the number of enumerators before it. -/
theorem counter_within (text : Text) :
    (∀ name body front rest, name? text = some name → IsBody text body →
      pieces body = front ++ rest → (∀ piece ∈ front, ∃ entry, Entry.ofText? piece = some entry) →
      ∃ previous, Resolving text front.length previous rest) ∧
    (∀ count previous rest, Resolving text count previous rest →
      (∃ name enumerators, enumerators.length = count ∧
        resolve text = (resolveEntries name previous rest).map fun later =>
          ⟨name, enumerators ++ later⟩) ∧
      WithinCount count previous ∧
      (text.length < 2 ^ 126 → FitsCounter (previous + 1))) ∧
    ∀ enum, resolve text = .ok enum → ∀ index enumerator value,
      enum.enumerators[index]? = some enumerator → enumerator.value = .int value →
        WithinCount index value := by
  refine ⟨fun _ _ _ _ named isBody split read => exists_resolving named isBody split read,
    ?iterations, ?enumerators⟩
  case iterations =>
    intro count previous rest resolving
    obtain ⟨least, below⟩ := resolving.counterWithin
    have counted := resolving.count_add_length_le
    refine ⟨resolving.resolve_eq, ⟨least, Int.le_of_lt below⟩, fun short => ?_⟩
    constructor <;> omega
  case enumerators =>
    intro enum resolved index enumerator value found integer
    obtain ⟨before, piece, behind, entry, resolving, read, rfl⟩ :=
      exists_resolving_of_resolve resolved found
    refine (Entry.yields read before).withinCount resolving.counterWithin value ?_
    rw [integer]
    rfl

/-- A declaration whose second entry counts past 64 bits and whose third one cannot be read. -/
def unreadEnum : Text :=
  "enum e { A = 0xffffffffffffffff, B, -C };".toList

theorem counter_within_unreadEnum :
    resolve unreadEnum = .error (.malformedEnumerator "e".toList " -C ".toList) ∧
      ∃ previous, Resolving unreadEnum 2 previous [" -C ".toList] ∧
        WithinCount 2 previous ∧ FitsCounter (previous + 1) := by
  have isBody : IsBody unreadEnum " A = 0xffffffffffffffff, B, -C ".toList :=
    ⟨"enum e ".toList, ";".toList, rfl, by decide, by decide⟩
  obtain ⟨reached, iterations, -⟩ := counter_within unreadEnum
  obtain ⟨previous, resolving⟩ := reached "e".toList _
    [" A = 0xffffffffffffffff".toList, " B".toList] [" -C ".toList] rfl isBody (by decide)
    (List.forall_mem_cons.mpr ⟨⟨_, rfl⟩, List.forall_mem_singleton.mpr ⟨_, rfl⟩⟩)
  obtain ⟨-, within, fits⟩ := iterations _ _ _ resolving
  exact ⟨rfl, previous, resolving, within, fits (by decide)⟩

end Enum
end CHeader
