import CHeader.Proofs.ResolveFailure

/-!
# Faults in the text of a declaration

Whether a declaration resolves can be seen from its text.  It needs a name behind a keyword and a
body in braces, and every piece of the body that is not blank has to begin with a word character.
The first piece that does not is the one at fault.
-/

namespace CHeader
namespace Enum

/-! ## Names -/

/-- `enum` and one or more spaces stand at the front, and the name is the longest run of word
characters behind them. -/
def NamedAtFront (text name : Text) : Prop :=
  ∃ gap rest, text = BlockKind.enum.keyword ++ (gap ++ (name ++ rest)) ∧
    gap ≠ [] ∧ (∀ c ∈ gap, c = ' ') ∧ IsWord name ∧ ∀ c ∈ rest.head?, Text.isWordChar c = false

/-- Somewhere a word character stands behind `enum` and one or more spaces. -/
def HoldsName (text : Text) : Prop :=
  ∃ front gap c rest, text = front ++ (BlockKind.enum.keyword ++ (gap ++ c :: rest)) ∧
    gap ≠ [] ∧ (∀ d ∈ gap, d = ' ') ∧ Text.isWordChar c = true

/-- The name stands behind the first keyword that has a name behind it. -/
def IsName (text name : Text) : Prop :=
  ∃ front behind, text = front ++ behind ∧ NamedAtFront behind name ∧
    ∀ earlier later other, text = earlier ++ later → NamedAtFront later other →
      front.length ≤ earlier.length

theorem nameAtFront?_eq_some_iff {text name : Text} :
    nameAtFront? text = some name ↔ NamedAtFront text name := by
  constructor
  · intro named
    have word := isWord_of_nameAtFront? named
    simp only [nameAtFront?] at named
    split at named
    · next behind keyword =>
        split at named
        · simp at named
        · have found := Option.some.inj named
          refine ⟨' ' :: behind.takeWhile (· = ' '),
            (behind.dropWhile (· = ' ')).dropWhile Text.isWordChar, ?_, by simp, ?_, word, ?_⟩
          · rw [Text.eq_append_of_dropFront? keyword, ← found, List.takeWhile_append_dropWhile,
              List.cons_append, List.takeWhile_append_dropWhile]
          · refine List.forall_mem_cons.mpr ⟨rfl, fun c member => ?_⟩
            simpa using List.mem_takeWhile_imp member
          · exact fun c first => Text.of_mem_head?_dropWhile first
    · simp at named
  · rintro ⟨gap, rest, rfl, some_gap, spaces, word, ended⟩
    cases gap with
    | nil => exact absurd rfl some_gap
    | cons c gap =>
        obtain ⟨space, spaces⟩ := List.forall_mem_cons.mp spaces
        rw [space]
        exact nameAtFront?_append spaces word ended

theorem NamedAtFront.unique {text name other : Text} (named : NamedAtFront text name)
    (also : NamedAtFront text other) : name = other :=
  Option.some.inj ((nameAtFront?_eq_some_iff.mpr named).symm.trans
    (nameAtFront?_eq_some_iff.mpr also))

theorem NamedAtFront.isName {text name : Text} (named : NamedAtFront text name) :
    IsName text name :=
  ⟨[], text, rfl, named, fun _ _ _ _ _ => Nat.zero_le _⟩

theorem isName_iff_of_namedAtFront {text name other : Text} (named : NamedAtFront text name) :
    IsName text other ↔ name = other := by
  constructor
  · rintro ⟨front, behind, rfl, behind_named, first⟩
    have no_front := first [] (front ++ behind) name rfl named
    obtain rfl := List.eq_nil_of_length_eq_zero (Nat.le_zero.mp no_front)
    exact named.unique behind_named
  · rintro rfl
    exact named.isName

/-- A character where no name stands moves the first name by one place. -/
theorem isName_cons_iff {c : Char} {text name : Text}
    (unnamed : ∀ other, ¬ NamedAtFront (c :: text) other) :
    IsName (c :: text) name ↔ IsName text name := by
  constructor
  · rintro ⟨front, behind, split, named, first⟩
    cases front with
    | nil =>
        obtain rfl : c :: text = behind := split
        exact absurd named (unnamed name)
    | cons d front =>
        obtain ⟨rfl, rfl⟩ := List.cons.inj split
        refine ⟨front, behind, rfl, named, fun earlier later other split' named' => ?_⟩
        exact Nat.le_of_succ_le_succ
          (first (c :: earlier) later other (congrArg (List.cons c) split') named')
  · rintro ⟨front, behind, rfl, named, first⟩
    refine ⟨c :: front, behind, rfl, named, fun earlier later other split named' => ?_⟩
    cases earlier with
    | nil =>
        obtain rfl : c :: (front ++ behind) = later := split
        exact absurd named' (unnamed other)
    | cons d earlier =>
        exact Nat.succ_le_succ (first earlier later other (List.cons.inj split).2 named')

/-- The search takes the first place where a name stands. -/
theorem name?_eq_some_iff {text name : Text} : name? text = some name ↔ IsName text name := by
  induction text with
  | nil =>
      refine iff_of_false (by simp [name?]) ?_
      rintro ⟨front, behind, split, ⟨gap, rest, rfl, -⟩, -⟩
      simp [BlockKind.keyword] at split
  | cons c text ih =>
      rw [name?]
      cases here : nameAtFront? (c :: text) with
      | some other =>
          rw [isName_iff_of_namedAtFront (nameAtFront?_eq_some_iff.mp here)]
          exact Option.some.injEq other name ▸ Iff.rfl
      | none =>
          have unnamed (other : Text) : ¬ NamedAtFront (c :: text) other := by
            rw [← nameAtFront?_eq_some_iff, here]
            simp
          exact ih.trans (isName_cons_iff unnamed).symm

/-- A name is found if one stands anywhere. -/
theorem exists_name?_iff {text : Text} : (∃ name, name? text = some name) ↔ HoldsName text := by
  constructor
  · rintro ⟨name, named⟩
    obtain ⟨front, behind, rfl, ⟨gap, rest, rfl, some_gap, spaces, ⟨nonempty, word⟩, -⟩, -⟩ :=
      name?_eq_some_iff.mp named
    obtain ⟨c, name, rfl⟩ := List.exists_cons_of_ne_nil nonempty
    exact ⟨front, gap, c, name ++ rest, rfl, some_gap, spaces, word c List.mem_cons_self⟩
  · rintro ⟨front, gap, c, rest, rfl, some_gap, spaces, word⟩
    induction front with
    | nil =>
        have named : NamedAtFront (BlockKind.enum.keyword ++ (gap ++ c :: rest))
            ((c :: rest).takeWhile Text.isWordChar) := by
          refine ⟨gap, (c :: rest).dropWhile Text.isWordChar, ?_, some_gap, spaces, ?_, ?_⟩
          · rw [List.takeWhile_append_dropWhile]
          · exact isWord_takeWhile (by simp [word])
          · exact fun d first => Text.of_mem_head?_dropWhile first
        exact ⟨_, name?_eq_some_iff.mpr named.isName⟩
    | cons d front ih =>
        obtain ⟨name, found⟩ := ih
        rw [List.cons_append, name?, found]
        cases nameAtFront? (d :: (front ++ _)) with
        | none => exact ⟨name, rfl⟩
        | some other => exact ⟨other, rfl⟩

theorem name?_eq_none_iff {text : Text} : name? text = none ↔ ¬ HoldsName text := by
  rw [← exists_name?_iff, Option.eq_none_iff_forall_ne_some, not_exists]

/-! ## Pieces -/

/-- The first character behind the blanks at the front of a piece is no word character. -/
def IsMalformed (piece : Text) : Prop :=
  ∃ gap c rest, piece = gap ++ c :: rest ∧ Text.isBlankText gap = true ∧
    Text.isBlank c = false ∧ Text.isWordChar c = false

/-- An entry is malformed, and the pieces before it are not. -/
def IsFirstMalformed (pieces : List Text) (entry : Text) : Prop :=
  IsMalformed entry ∧ ∃ before behind, pieces = before ++ entry :: behind ∧
    ∀ earlier ∈ before, ¬ IsMalformed earlier

theorem isMalformed_iff_trimStart {piece : Text} :
    IsMalformed piece ↔ ∃ c ∈ (Text.trimStart piece).head?, Text.isWordChar c = false := by
  constructor
  · rintro ⟨gap, c, rest, rfl, blank, solid, no_word⟩
    have front : Text.trimStart (gap ++ c :: rest) = c :: rest :=
      Text.trimStart_append blank (by simpa using solid)
    exact ⟨c, by rw [front]; rfl, no_word⟩
  · rintro ⟨c, first, no_word⟩
    obtain ⟨rest, front⟩ := List.head?_eq_some_iff.mp first
    refine ⟨piece.takeWhile Text.isBlank, c, rest, ?_, ?_, ?_, no_word⟩
    · rw [← front, Text.trimStart, List.takeWhile_append_dropWhile]
    · exact List.all_eq_true.mpr fun _ member => List.mem_takeWhile_imp member
    · exact Text.of_mem_head?_dropWhile first

theorem Entry.ofText?_eq_none_iff {piece : Text} :
    ofText? piece = none ↔ (Text.trimStart piece).takeWhile Text.isWordChar = [] := by
  simp only [ofText?]
  split
  · next unnamed => simpa using unnamed
  · next named =>
      refine iff_of_false ?_ (by simpa using named)
      split <;> simp

/-- A piece is malformed if it is not blank and cannot be read. -/
theorem isMalformed_iff {piece : Text} :
    IsMalformed piece ↔ Text.isBlankText piece = false ∧ Entry.ofText? piece = none := by
  have blank : Text.isBlankText piece = true ↔ Text.trimStart piece = [] := by
    simp [Text.isBlankText, Text.trimStart, List.dropWhile_eq_nil_iff]
  rw [isMalformed_iff_trimStart, Entry.ofText?_eq_none_iff, ← Bool.not_eq_true, blank]
  cases Text.trimStart piece with
  | nil => simp
  | cons c front => simp [List.takeWhile_cons]

instance : DecidablePred IsMalformed :=
  fun piece => decidable_of_iff
    (Text.isBlankText piece = false ∧ (Entry.ofText? piece).isNone = true)
    (by rw [isMalformed_iff, Option.isNone_iff_eq_none])

theorem isFirstMalformed_iff_find? {pieces : List Text} {entry : Text} :
    IsFirstMalformed pieces entry ↔
      pieces.find? (fun piece => decide (IsMalformed piece)) = some entry := by
  simp [IsFirstMalformed, List.find?_eq_some_iff_append]

theorem exists_isFirstMalformed_iff {pieces : List Text} :
    (∃ entry, IsFirstMalformed pieces entry) ↔ ∃ piece ∈ pieces, IsMalformed piece := by
  simp only [isFirstMalformed_iff_find?, ← Option.isSome_iff_exists, List.find?_isSome,
    decide_eq_true_eq]

/-- The first entry that cannot be read is the first malformed piece. -/
theorem exists_unread_entry_iff {body entry : Text} :
    (∃ front back, entries body = front ++ entry :: back ∧
      (∀ earlier ∈ front, ∃ read, Entry.ofText? earlier = some read) ∧
      Entry.ofText? entry = none) ↔ IsFirstMalformed (body.splitOn ',') entry := by
  have found : (entries body).find? (fun piece => (Entry.ofText? piece).isNone) = some entry ↔
      IsFirstMalformed (body.splitOn ',') entry := by
    rw [isFirstMalformed_iff_find?, entries, List.find?_filter]
    simp [isMalformed_iff]
  rw [← found, List.find?_eq_some_iff_append]
  simp only [Option.isNone_iff_eq_none, Bool.not_eq_true', Option.isNone_eq_false_iff,
    Option.isSome_iff_exists]
  constructor
  · rintro ⟨front, back, split, before, unread⟩
    exact ⟨unread, front, back, split, before⟩
  · rintro ⟨unread, front, back, split, before⟩
    exact ⟨front, back, split, before, unread⟩

/-! ## Outcomes -/

theorem resolve_eq_malformedEnum_iff {text : Text} :
    (∃ fault declaration, resolve text = .error (.malformedEnum fault declaration)) ↔
      ¬ HoldsName text ∨ ¬ ClosesBrace text := by
  constructor
  · rintro ⟨fault, declaration, failed⟩
    cases resolve_eq_error_iff.mp failed with
    | noName unnamed => exact .inl (name?_eq_none_iff.mp unnamed)
    | noBody named open_text => exact .inr open_text
  · intro lacking
    cases named : name? text with
    | none => exact ⟨.noName, text, resolve_eq_error_iff.mpr (.noName named)⟩
    | some name =>
        have open_text := lacking.resolve_left (not_not.mpr (exists_name?_iff.mp ⟨name, named⟩))
        exact ⟨.noBody name, text, resolve_eq_error_iff.mpr (.noBody named open_text)⟩

theorem resolve_eq_malformedEnumerator_iff {text name entry : Text} :
    resolve text = .error (.malformedEnumerator name entry) ↔
      IsName text name ∧ ∃ body, IsBody text body ∧
        IsFirstMalformed ((onOneLine body).splitOn ',') entry := by
  constructor
  · intro failed
    cases resolve_eq_error_iff.mp failed with
    | entry named found split before unread =>
        obtain ⟨body, isBody, rfl⟩ := exists_isBody_of_body? found
        refine ⟨name?_eq_some_iff.mp named, body, isBody, ?_⟩
        exact exists_unread_entry_iff.mp ⟨_, _, split, before, unread⟩
  · rintro ⟨named, body, isBody, first⟩
    obtain ⟨front, back, split, before, unread⟩ := exists_unread_entry_iff.mpr first
    exact resolve_eq_error_iff.mpr
      (.entry (name?_eq_some_iff.mpr named) isBody.body?_eq split before unread)

theorem exists_resolve_eq_ok_iff {text : Text} :
    (∃ enum, resolve text = .ok enum) ↔ HoldsName text ∧ ∃ body, IsBody text body ∧
      ∀ piece ∈ (onOneLine body).splitOn ',', ¬ IsMalformed piece := by
  constructor
  · rintro ⟨enum, resolved⟩
    obtain ⟨named, joined, found, -⟩ := exists_parts_of_resolve resolved
    obtain ⟨body, isBody, -⟩ := exists_isBody_of_body? found
    refine ⟨exists_name?_iff.mp ⟨enum.name, named⟩, body, isBody, fun piece listed malformed => ?_⟩
    obtain ⟨entry, first⟩ := exists_isFirstMalformed_iff.mpr ⟨piece, listed, malformed⟩
    have failed := resolve_eq_malformedEnumerator_iff.mpr
      ⟨name?_eq_some_iff.mp named, body, isBody, first⟩
    simp [resolved] at failed
  · rintro ⟨holds, body, isBody, readable⟩
    cases outcome : resolve text with
    | ok enum => exact ⟨enum, rfl⟩
    | error cause =>
        cases resolve_eq_error_iff.mp outcome with
        | noName unnamed => exact absurd holds (name?_eq_none_iff.mp unnamed)
        | noBody named open_text => exact absurd isBody.closesBrace open_text
        | entry named found split before unread =>
            obtain rfl := Option.some.inj (isBody.body?_eq.symm.trans found)
            obtain ⟨malformed, _, _, pieces, -⟩ :=
              exists_unread_entry_iff.mp ⟨_, _, split, before, unread⟩
            exact absurd malformed (readable _ (by simp [pieces]))

/-- A declaration is malformed exactly if it holds no name behind a keyword or closes no brace that
it opens.  Otherwise its first malformed piece, if it has one, is at fault, under the first name in
the text; and if it has none, the declaration resolves. -/
theorem resolve_outcome (text : Text) :
    ((∃ fault declaration, resolve text = .error (.malformedEnum fault declaration)) ↔
      ¬ HoldsName text ∨ ¬ ClosesBrace text) ∧
    (∀ name entry, resolve text = .error (.malformedEnumerator name entry) ↔
      IsName text name ∧ ∃ body, IsBody text body ∧
        IsFirstMalformed ((onOneLine body).splitOn ',') entry) ∧
    ((∃ enum, resolve text = .ok enum) ↔
      HoldsName text ∧ ∃ body, IsBody text body ∧
        ∀ piece ∈ (onOneLine body).splitOn ',', ¬ IsMalformed piece) :=
  ⟨resolve_eq_malformedEnum_iff, fun _ _ => resolve_eq_malformedEnumerator_iff,
    exists_resolve_eq_ok_iff⟩

/-- The comma between arguments divides a value, and its second half is the entry at fault. -/
example : resolve "enum e { A = MAKE(x, -1), = };".toList =
    .error (.malformedEnumerator "e".toList " -1)".toList) := rfl

end Enum
end CHeader
