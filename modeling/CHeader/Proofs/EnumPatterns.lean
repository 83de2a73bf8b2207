import CHeader.Proofs.Regex
import CHeader.Proofs.Resolution

/-!
# The patterns of enums

The name of an enum is the group of the first match of one pattern in its text.  An entry of its
body is matched as a whole by one of two patterns, an assignment before a bare name.  No character
can be given back in any of them, because blanks, word characters and equals signs exclude each
other.
-/

namespace CHeader
namespace Enum

/-- A blank. -/
def blankChar : Regex :=
  .one Text.isBlank

/-- A word, which is reported. -/
def wordPattern : Regex :=
  .group (.atLeastOne (.one Text.isWordChar))

/-- The keyword of an enum and its name. -/
def namePattern : Regex :=
  .seq (.text BlockKind.enum.keyword) (.seq (.atLeastOne (.one fun c => c = ' ')) wordPattern)

/-- An equals sign and all that follows it, which is reported. -/
def valuePattern : Regex :=
  .seq (.many blankChar) (.seq (.text ['=']) (.seq (.group (.many .any)) .textEnd))

/-- An entry with a value. -/
def assignedPattern : Regex :=
  .seq .textStart (.seq (.many blankChar) (.seq wordPattern valuePattern))

/-- An entry without a value. -/
def barePattern : Regex :=
  .seq .textStart (.seq (.many blankChar) wordPattern)

section Search

open Regex

variable {α : Type} {before : Option Char} {text : Text}

theorem firstThat?_wordPattern_of_refused {goOn : Match → Option α} {c : Char}
    (refused : Text.isWordChar c = false) :
    wordPattern.firstThat? goOn before (c :: text) = none := by
  rw [wordPattern, firstThat?_group]
  exact firstThat?_atLeastOne_one_of_nil (by simp [refused])

theorem firstThat?_wordPattern_of_blank {goOn : Match → Option α} {c : Char}
    (blank : Text.isBlank c = true) : wordPattern.firstThat? goOn before (c :: text) = none := by
  refine firstThat?_wordPattern_of_refused ?_
  cases word : Text.isWordChar c with
  | true => simp [Text.not_blank_of_isWordChar word] at blank
  | false => rfl

/-- The longest word, with nothing behind it to look for. -/
theorem firstThat?_wordPattern (outcome : List Text → α) :
    wordPattern.firstThat? (fun found => some (outcome found.groups)) before text =
      if text.takeWhile Text.isWordChar = [] then none
      else some (outcome [text.takeWhile Text.isWordChar]) := by
  rw [wordPattern, firstThat?_group]
  split
  · next no_word => exact firstThat?_atLeastOne_one_of_nil no_word
  · next word => exact firstThat?_atLeastOne_one_of_some word rfl

/-! ## The name of an enum -/

theorem firstThat?_namePattern (outcome : List Text → α) (text : Text) :
    namePattern.firstThat? (fun found => some (outcome found.groups)) before text =
      (nameAtFront? text).map fun name => outcome [name] := by
  rw [namePattern, nameAtFront?]
  cases keyword : Text.dropFront? BlockKind.enum.keyword text with
  | none => exact firstThat?_text_seq_of_none keyword _
  | some behind =>
      obtain rfl := Text.eq_append_of_dropFront? keyword
      rw [firstThat?_text_seq, firstThat?_seq, firstThat?_atLeastOne_one]
      · cases behind with
        | nil => rfl
        | cons c behind =>
            by_cases space : c = ' '
            · subst space
              refine (firstThat?_wordPattern outcome).trans ?_
              simp only [List.dropWhile_cons_of_pos, decide_true, List.isEmpty_iff]
              split <;> rfl
            · simp [space]
      · intro front c back accepted
        obtain rfl : c = ' ' := of_decide_eq_true accepted
        exact firstThat?_wordPattern_of_refused Text.isWordChar_space

theorem groups_find?_namePattern (text : Text) :
    (namePattern.find? before text).map Match.groups = (name? text).map ([·]) := by
  induction text generalizing before with
  | nil => exact (firstThat?_some _ _).symm.trans (firstThat?_namePattern id [])
  | cons c text ih =>
      have front : (namePattern.first? before (c :: text)).map Match.groups =
          (nameAtFront? (c :: text)).map ([·]) :=
        (firstThat?_some _ _).symm.trans (firstThat?_namePattern id (c :: text))
      rw [find?, Option.map_or, front, ih, name?]
      cases nameAtFront? (c :: text) <;> rfl

/-- The name of an enum is reported by the first match of its pattern. -/
theorem name?_eq_find? (text : Text) :
    name? text = (namePattern.find? none text).bind fun found => found.groups.head? := by
  have groups : (namePattern.find? none text).map Match.groups = (name? text).map ([·]) :=
    groups_find?_namePattern text
  have heads := congrArg (Option.bind · List.head?) groups
  simpa [Option.bind_map, Function.comp_def] using heads.symm

/-! ## The entries of a body -/

theorem firstThat?_valuePattern (outcome : List Text → α) (text : Text) :
    valuePattern.firstThat? (fun found => some (outcome found.groups)) before text =
      match Text.trimStart text with
      | '=' :: value => some (outcome [value])
      | _ => none := by
  rw [valuePattern, firstThat?_seq, blankChar, firstThat?_many_one]
  · rw [Text.trimStart]
    cases text.dropWhile Text.isBlank with
    | nil => rfl
    | cons c value =>
        by_cases equals : c = '='
        · subst equals
          refine (firstThat?_text_seq ['='] value _).trans ?_
          rw [firstThat?_seq, firstThat?_group, any]
          have whole : value.takeWhile (fun _ => true) = value := by simp
          have ended : value.dropWhile (fun _ => true) = [] := by simp
          refine firstThat?_many_one_of_some ?_
          rw [whole, ended]
          exact firstThat?_textEnd_nil
        · rw [firstThat?_text_seq_of_none (by simp [Text.dropFront?, Ne.symm equals])]
          simp [equals]
  · intro front c back blank
    refine firstThat?_text_seq_of_none ?_ _
    have other : c ≠ '=' := fun same => by simp [same, Text.isBlank_equals] at blank
    simp [Text.dropFront?, other.symm]

end Search

namespace Entry

open Regex

/-- The entry of which a match reports the name and the value, or the name alone. -/
def ofGroups? : List Text → Option Entry
  | [name, value] => some (assigned name (Text.trim value))
  | [name] => some (bare name)
  | _ => none

/-- The groups of an entry are its name and, behind an equals sign, its value. -/
theorem groups_find?_assignedPattern (text : Text) :
    (assignedPattern.find? none text).map Match.groups =
      if (Text.trimStart text).takeWhile Text.isWordChar = [] then none
      else
        match Text.trimStart ((Text.trimStart text).dropWhile Text.isWordChar) with
        | '=' :: value => some [(Text.trimStart text).takeWhile Text.isWordChar, value]
        | _ => none := by
  rw [assignedPattern, find?_textStart_seq, ← firstThat?_some, firstThat?_seq, blankChar,
    firstThat?_many_one, Text.trimStart, firstThat?_seq, wordPattern, firstThat?_group,
    firstThat?_atLeastOne_one]
  · split
    · rfl
    · exact firstThat?_valuePattern (_ :: ·) _
  · intro front c back word
    have solid := Text.not_blank_of_isWordChar word
    have other : c ≠ '=' := by
      rintro rfl
      exact absurd word (by decide)
    refine (firstThat?_valuePattern _ _).trans ?_
    rw [Text.trimStart, List.dropWhile_cons_of_neg (by simp [solid])]
    simp [other]
  · intro front c back blank
    rw [firstThat?_seq]
    exact firstThat?_wordPattern_of_blank blank

theorem groups_find?_barePattern (text : Text) :
    (barePattern.find? none text).map Match.groups =
      if (Text.trimStart text).takeWhile Text.isWordChar = [] then none
      else some [(Text.trimStart text).takeWhile Text.isWordChar] := by
  rw [barePattern, find?_textStart_seq, ← firstThat?_some, firstThat?_seq, blankChar,
    firstThat?_many_one]
  · exact firstThat?_wordPattern id
  · intro front c back blank
    exact firstThat?_wordPattern_of_blank blank

/-- An entry is reported by the match of an assignment, or else by that of a bare name. -/
theorem ofText?_eq_find? (text : Text) :
    ofText? text =
      ((assignedPattern.find? none text).or (barePattern.find? none text)).bind fun found =>
        ofGroups? found.groups := by
  have reported (found : Option Match) :
      (found.bind fun found => ofGroups? found.groups) =
        (found.map Match.groups).bind ofGroups? := by
    cases found <;> rfl
  rw [reported, Option.map_or, groups_find?_assignedPattern, groups_find?_barePattern, ofText?]
  simp only [List.isEmpty_iff]
  split
  · rfl
  · generalize Text.trimStart ((Text.trimStart text).dropWhile Text.isWordChar) = behind
    cases behind with
    | nil => rfl
    | cons c value =>
        by_cases equals : c = '='
        · subst equals
          rfl
        · simp [equals, ofGroups?]

end Entry
end Enum
end CHeader
