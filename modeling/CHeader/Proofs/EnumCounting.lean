import CHeader.Proofs.Decimal
import CHeader.Proofs.ResolveFailure

/-!
# The values of enumerators in closed form

The resolver threads a counter through the pieces of a body.  The counter is the last literal before
a piece, or -1, plus the number of bare pieces since then; so it can be read off the pieces without
running the resolver, and neither symbolic nor blank pieces count.
-/

namespace CHeader
namespace Enum

/-! ## Pieces -/

/-- The parts of a body between its commas, without those that are blank; newlines are spaces. -/
def pieces (body : Text) : List Text :=
  ((onOneLine body).splitOn ',').filter fun piece => !Text.isBlankText piece

/-- The longest run of word characters behind the blanks at the front of a piece. -/
def identifier (piece : Text) : Text :=
  (Text.trimStart piece).takeWhile Text.isWordChar

/-- The trimmed text behind the `=` that follows the identifier, if one does, with blanks between
them or without. -/
def assigned? (piece : Text) : Option Text :=
  match Text.trimStart ((Text.trimStart piece).dropWhile Text.isWordChar) with
  | '=' :: value => some (Text.trim value)
  | _ => none

/-- The integer that a piece assigns. -/
def literal? (piece : Text) : Option Int :=
  (assigned? piece).bind IntLiteral.parse?

/-- Whether a piece assigns nothing. -/
def isBare (piece : Text) : Bool :=
  (assigned? piece).isNone

/-- Whether a piece assigns something that is no integer. -/
def isSymbolic (piece : Text) : Bool :=
  !isBare piece && (literal? piece).isNone

theorem exists_isBody_of_resolve {text : Text} {enum : Enum} (resolved : resolve text = .ok enum) :
    ∃ body, IsBody text body := by
  obtain ⟨-, joined, found, -⟩ := exists_parts_of_resolve resolved
  obtain ⟨body, isBody, -⟩ := exists_isBody_of_body? found
  exact ⟨body, isBody⟩

theorem resolveEntries_of_isBody {text body : Text} {enum : Enum}
    (resolved : resolve text = .ok enum) (isBody : IsBody text body) :
    resolveEntries enum.name (-1) (pieces body) = .ok enum.enumerators := by
  obtain ⟨-, joined, found, entries_resolved⟩ := exists_parts_of_resolve resolved
  obtain rfl := Option.some.inj (isBody.body?_eq.symm.trans found)
  exact entries_resolved

/-! ## One piece -/

/-- What a piece yields if `previous` is the last integer before it. -/
inductive Yields (previous : Int) (piece : Text) : Enumerator → Prop where
  | bare (unassigned : assigned? piece = none) :
      Yields previous piece ⟨identifier piece, .int (previous + 1)⟩
  | literal {text : Text} {value : Int} (assigned : assigned? piece = some text)
      (read : IntLiteral.parse? text = some value) :
      Yields previous piece ⟨identifier piece, .int value⟩
  | symbolic {text : Text} (assigned : assigned? piece = some text)
      (unread : IntLiteral.parse? text = none) :
      Yields previous piece ⟨identifier piece, .expr text⟩

theorem Entry.eq_of_ofText? {piece : Text} {entry : Entry} (read : ofText? piece = some entry) :
    entry = match assigned? piece with
      | some text => assigned (identifier piece) text
      | none => bare (identifier piece) := by
  simp only [ofText?] at read
  split at read
  · simp at read
  · split at read
    · next equals => simp [assigned?, equals, identifier, ← Option.some.inj read]
    · next no_equals => simp [assigned?, identifier, ← Option.some.inj read]

theorem Entry.yields {piece : Text} {entry : Entry} (read : ofText? piece = some entry)
    (previous : Int) : Yields previous piece (entry.enumerator previous) := by
  rw [eq_of_ofText? read]
  cases assigned : assigned? piece with
  | none => exact .bare assigned
  | some text =>
      simp only [enumerator, valueOf]
      split
      · next value literal => exact .literal assigned literal
      · next no_literal => exact .symbolic assigned no_literal

/-- A piece yields an integer unless it is symbolic. -/
theorem Yields.isSome_int? {previous : Int} {piece : Text} {enumerator : Enumerator}
    (yields : Yields previous piece enumerator) :
    enumerator.value.int?.isSome = !isSymbolic piece := by
  cases yields with
  | bare unassigned => simp [EnumValue.int?, isSymbolic, isBare, unassigned]
  | literal assigned read => simp [EnumValue.int?, isSymbolic, isBare, literal?, assigned, read]
  | symbolic assigned unread =>
      simp [EnumValue.int?, isSymbolic, isBare, literal?, assigned, unread]

/-- What the resolver counts up from never falls below the least literal. -/
theorem Yields.least_le {previous : Int} {piece : Text} {enumerator : Enumerator}
    (yields : Yields previous piece enumerator) (bound : -0x8000000000000000 ≤ previous) :
    -0x8000000000000000 ≤ enumerator.value.int?.getD previous := by
  cases yields with
  | bare unassigned =>
      simp only [EnumValue.int?, Option.getD_some]
      omega
  | literal assigned read => exact (IntLiteral.inRange_of_parse? read).1
  | symbolic assigned unread => exact bound

/-! ## Closed form -/

/-- The last literal among pieces and the pieces behind it; without a literal it is as if -1 stood
in front of them all. -/
inductive LastLiteral : List Text → Int → List Text → Prop where
  | start {texts : List Text} (unset : ∀ piece ∈ texts, literal? piece = none) :
      LastLiteral texts (-1) texts
  | literal {front : List Text} {piece : Text} {behind : List Text} {value : Int}
      (read : literal? piece = some value) (unset : ∀ later ∈ behind, literal? later = none) :
      LastLiteral (front ++ piece :: behind) value behind

/-- The value of a piece, given the pieces before it. -/
inductive HasValue (before : List Text) (piece : Text) : EnumValue → Prop where
  | literal {text : Text} {value : Int} (assigned : assigned? piece = some text)
      (read : IntLiteral.parse? text = some value) : HasValue before piece (.int value)
  | symbolic {text : Text} (assigned : assigned? piece = some text)
      (unread : IntLiteral.parse? text = none) : HasValue before piece (.expr text)
  | counted {base : Int} {behind : List Text} (bare : assigned? piece = none)
      (last : LastLiteral before base behind) :
      HasValue before piece (.int (base + (behind ++ [piece]).countP isBare))

theorem LastLiteral.append_singleton {texts behind : List Text} {base : Int} {piece : Text}
    (last : LastLiteral texts base behind) (unset : literal? piece = none) :
    LastLiteral (texts ++ [piece]) base (behind ++ [piece]) := by
  cases last with
  | start before => exact .start (List.forall_mem_append.mpr ⟨before, by simpa using unset⟩)
  | literal read after =>
      rw [List.append_assoc, List.cons_append]
      exact .literal read (List.forall_mem_append.mpr ⟨after, by simpa using unset⟩)

/-- The last literal stands at one place only. -/
theorem LastLiteral.unique {texts behind behind' : List Text} {base base' : Int}
    (last : LastLiteral texts base behind) (also : LastLiteral texts base' behind') :
    base = base' ∧ behind = behind' := by
  cases last with
  | start unset =>
      cases also with
      | start => exact ⟨rfl, rfl⟩
      | literal read' => simp [unset _ (List.mem_append_right _ List.mem_cons_self)] at read'
  | @literal front piece behind base read unset =>
      generalize split : front ++ piece :: behind = texts at also
      cases also with
      | start unset' => simp [unset' piece (by simp [← split])] at read
      | literal read' unset' =>
          rcases List.append_eq_append_iff.mp split with ⟨gap, -, same⟩ | ⟨gap, -, same⟩
          all_goals
            cases gap with
            | nil => simp_all
            | cons other gap => simp_all

theorem HasValue.unique {before : List Text} {piece : Text} {value value' : EnumValue}
    (hasValue : HasValue before piece value) (also : HasValue before piece value') :
    value = value' := by
  cases hasValue with
  | literal assigned read => cases also <;> simp_all
  | symbolic assigned unread => cases also <;> simp_all
  | counted bare last =>
      cases also with
      | literal assigned => simp [bare] at assigned
      | symbolic assigned => simp [bare] at assigned
      | counted _ last' =>
          obtain ⟨rfl, rfl⟩ := last.unique last'
          rfl

/-! ## The counter -/

/-- What the resolver counts up from behind some pieces. -/
def Counter (texts : List Text) (previous : Int) : Prop :=
  ∃ base behind, LastLiteral texts base behind ∧ previous = base + behind.countP isBare

theorem counter_nil : Counter [] (-1) :=
  ⟨-1, [], .start (by simp), by simp⟩

section Step

variable {before : List Text} {previous : Int} {piece : Text} {enumerator : Enumerator}
  (counter : Counter before previous) (yields : Yields previous piece enumerator)

include counter yields

/-- The next piece has its value from the counter. -/
theorem Counter.hasValue :
    enumerator.name = identifier piece ∧ HasValue before piece enumerator.value := by
  obtain ⟨base, behind, last, rfl⟩ := counter
  cases yields with
  | bare unassigned =>
      have counted := HasValue.counted unassigned last
      rw [List.countP_append, Int.natCast_add, ← Int.add_assoc] at counted
      exact ⟨rfl, by simpa [isBare, unassigned] using counted⟩
  | literal assigned read => exact ⟨rfl, .literal assigned read⟩
  | symbolic assigned unread => exact ⟨rfl, .symbolic assigned unread⟩

/-- Behind the next piece the counter is what all pieces up to it make it. -/
theorem Counter.step : Counter (before ++ [piece]) (enumerator.value.int?.getD previous) := by
  obtain ⟨base, behind, last, rfl⟩ := counter
  cases yields with
  | bare unassigned =>
      have unset : literal? piece = none := by simp [literal?, unassigned]
      refine ⟨base, behind ++ [piece], last.append_singleton unset, ?_⟩
      simp [EnumValue.int?, isBare, unassigned, Int.add_assoc]
  | @literal text value assigned read =>
      have set : literal? piece = some value := by simp [literal?, assigned, read]
      exact ⟨value, [], .literal set (by simp), by simp [EnumValue.int?]⟩
  | symbolic assigned unread =>
      have unset : literal? piece = none := by simp [literal?, assigned, unread]
      refine ⟨base, behind ++ [piece], last.append_singleton unset, ?_⟩
      simp [EnumValue.int?, isBare, assigned]

end Step

/-! ## All pieces -/

variable {name : Text} {previous : Int} {before texts : List Text} {enumerators : List Enumerator}

theorem resolveEntries_cons_eq_ok_iff {piece : Text} :
    resolveEntries name previous (piece :: texts) = .ok enumerators ↔
      ∃ entry later, Entry.ofText? piece = some entry ∧
        resolveEntries name ((entry.enumerator previous).value.int?.getD previous) texts =
          .ok later ∧ enumerators = entry.enumerator previous :: later := by
  cases read : Entry.ofText? piece with
  | none => simp [resolveEntries, read]
  | some entry =>
      rw [resolveEntries_cons read, except_map_eq_ok_iff]
      simp [eq_comm]

theorem least_le_of_resolveEntries (bound : -0x8000000000000000 ≤ previous)
    (resolved : resolveEntries name previous texts = .ok enumerators) :
    ∀ enumerator ∈ enumerators, ∀ value ∈ enumerator.value.int?, -0x8000000000000000 ≤ value := by
  induction texts generalizing previous enumerators with
  | nil => simp [← Except.ok.inj resolved]
  | cons piece texts ih =>
      obtain ⟨entry, later, read, later_resolved, rfl⟩ := resolveEntries_cons_eq_ok_iff.mp resolved
      have behind := (Entry.yields read previous).least_le bound
      refine List.forall_mem_cons.mpr ⟨fun value integer => ?_, ih behind later_resolved⟩
      rwa [Option.mem_def.mp integer, Option.getD_some] at behind

/-- Every piece yields one enumerator. -/
theorem length_of_resolveEntries (resolved : resolveEntries name previous texts = .ok enumerators) :
    enumerators.length = texts.length := by
  induction texts generalizing previous enumerators with
  | nil => simp [← Except.ok.inj resolved]
  | cons piece texts ih =>
      obtain ⟨entry, later, -, later_resolved, rfl⟩ := resolveEntries_cons_eq_ok_iff.mp resolved
      simp [ih later_resolved]

/-- The enumerator of each piece, with the counter as it is behind the pieces before it. -/
theorem Counter.enumerator_of_resolveEntries (counter : Counter before previous)
    (resolved : resolveEntries name previous texts = .ok enumerators) {front back : List Text}
    {piece : Text} (split : texts = front ++ piece :: back) :
    ∃ value, enumerators[front.length]? = some ⟨identifier piece, value⟩ ∧
      HasValue (before ++ front) piece value := by
  induction texts generalizing previous before enumerators front with
  | nil => simp at split
  | cons first texts ih =>
      obtain ⟨entry, later, read, later_resolved, rfl⟩ :=
        resolveEntries_cons_eq_ok_iff.mp resolved
      cases front with
      | nil =>
          obtain ⟨rfl, rfl⟩ := List.cons.inj split
          obtain ⟨named, hasValue⟩ := counter.hasValue (Entry.yields read previous)
          exact ⟨(entry.enumerator previous).value, by simp [← named], by simpa using hasValue⟩
      | cons _ front =>
          obtain ⟨rfl, rfl⟩ := List.cons.inj split
          have stepped := counter.step (Entry.yields read previous)
          obtain ⟨value, found, hasValue⟩ := ih stepped later_resolved rfl
          exact ⟨value, by simpa using found, by simpa using hasValue⟩

/-- Symbolic pieces can be left out, which takes away their enumerators and no others. -/
theorem resolveEntries_filter (resolved : resolveEntries name previous texts = .ok enumerators)
    (other : Text) :
    resolveEntries other previous (texts.filter fun piece => !isSymbolic piece) =
      .ok (enumerators.filter fun enumerator => enumerator.value.int?.isSome) := by
  induction texts generalizing previous enumerators with
  | nil => simp [← Except.ok.inj resolved, resolveEntries]
  | cons piece texts ih =>
      obtain ⟨entry, later, read, later_resolved, rfl⟩ :=
        resolveEntries_cons_eq_ok_iff.mp resolved
      have behind := ih later_resolved
      have kept := (Entry.yields read previous).isSome_int?
      by_cases symbolic : isSymbolic piece = true
      · have no_integer : (entry.enumerator previous).value.int? = none := by
          simpa [symbolic] using kept
        rw [no_integer, Option.getD_none] at behind
        rw [List.filter_cons_of_neg (by simp [symbolic]),
          List.filter_cons_of_neg (by simp [no_integer]), behind]
      · rw [Bool.not_eq_true] at symbolic
        rw [List.filter_cons_of_pos (by simp [symbolic]),
          List.filter_cons_of_pos (by simp [kept, symbolic])]
        exact resolveEntries_cons_eq_ok_iff.mpr ⟨entry, _, read, behind, rfl⟩

/-- The enumerators of a declaration in closed form.  There is one for each piece that is not blank.
It is named by the identifier of the piece, and its value is the literal or the text that the piece
assigns, or else the last literal before the piece, or -1, plus the number of bare pieces since
then.  Declarations with the same pieces but for symbolic and blank ones have the same integers. -/
theorem resolve_counts {text : Text} {enum : Enum} (resolved : resolve text = .ok enum) :
    (∃ body, IsBody text body) ∧ ∀ body, IsBody text body →
      enum.enumerators.length = (pieces body).length ∧
      (∀ before piece behind, pieces body = before ++ piece :: behind → ∀ enumerator,
        enum.enumerators[before.length]? = some enumerator ↔
          enumerator.name = identifier piece ∧ HasValue before piece enumerator.value) ∧
      ∀ other otherEnum otherBody, resolve other = .ok otherEnum → IsBody other otherBody →
        (pieces otherBody).filter (fun piece => !isSymbolic piece) =
          (pieces body).filter (fun piece => !isSymbolic piece) →
        otherEnum.enumerators.filter (fun enumerator => enumerator.value.int?.isSome) =
          enum.enumerators.filter fun enumerator => enumerator.value.int?.isSome := by
  refine ⟨exists_isBody_of_resolve resolved, fun body isBody => ?_⟩
  have entries_resolved := resolveEntries_of_isBody resolved isBody
  refine ⟨length_of_resolveEntries entries_resolved, ?values, ?symbolic⟩
  case values =>
    intro before piece behind split enumerator
    obtain ⟨value, found, hasValue⟩ :=
      counter_nil.enumerator_of_resolveEntries entries_resolved split
    rw [found, Option.some.injEq]
    constructor
    · rintro rfl
      exact ⟨rfl, hasValue⟩
    · rintro ⟨named, also⟩
      obtain ⟨name, value'⟩ := enumerator
      rw [← named, hasValue.unique also]
  case symbolic =>
    intro other otherEnum otherBody other_resolved other_isBody same
    have other_filtered := resolveEntries_filter
      (resolveEntries_of_isBody other_resolved other_isBody) enum.name
    rw [same, resolveEntries_filter entries_resolved enum.name] at other_filtered
    exact (Except.ok.inj other_filtered).symm

/-- A declaration with all kinds of pieces. -/
def mixedEnum : Text :=
  "enum e { A = 5, B, , C = FOO, D };".toList

/-- The symbolic piece and the blank one do not count: two bare pieces follow the literal 5. -/
theorem resolve_counts_mixedEnum :
    resolve mixedEnum = .ok ⟨"e".toList, [⟨"A".toList, .int 5⟩, ⟨"B".toList, .int 6⟩,
        ⟨"C".toList, .expr "FOO".toList⟩, ⟨"D".toList, .int 7⟩]⟩ ∧
      HasValue [" A = 5".toList, " B".toList, " C = FOO".toList] " D ".toList (.int 7) := by
  have resolved : resolve mixedEnum = .ok ⟨"e".toList, [⟨"A".toList, .int 5⟩,
      ⟨"B".toList, .int 6⟩, ⟨"C".toList, .expr "FOO".toList⟩, ⟨"D".toList, .int 7⟩]⟩ := rfl
  have isBody : IsBody mixedEnum " A = 5, B, , C = FOO, D ".toList :=
    ⟨"enum e ".toList, ";".toList, rfl, by decide, by decide⟩
  obtain ⟨-, closed⟩ := resolve_counts resolved
  obtain ⟨-, values, -⟩ := closed _ isBody
  have fourth := values [" A = 5".toList, " B".toList, " C = FOO".toList] " D ".toList []
    (by decide) ⟨"D".toList, .int 7⟩
  exact ⟨resolved, (fourth.mp rfl).2⟩

end Enum
end CHeader
