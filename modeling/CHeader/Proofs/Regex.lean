import Mathlib.Data.List.Basic
import CHeader.Text

/-!
# Regular expressions

A regular expression may match the front of a text in several ways.  They are listed in the order
in which a backtracking search meets them: the first alternative goes before the second one, more
repetitions go before fewer, and fewer before more if the repetition is lazy.  The first of these
ways is the match.  Matches are taken from front to back, each at the first place behind the one
before it at which there is one.
-/

namespace CHeader

/-- Regular expressions. -/
inductive Regex where
  /-- A fixed text. -/
  | text (text : Text)
  /-- One character of a class. -/
  | one (accepts : Char → Bool)
  /-- The start of a line. -/
  | lineStart
  /-- The end of a line. -/
  | lineEnd
  /-- The start of the text. -/
  | textStart
  /-- The end of the text. -/
  | textEnd
  /-- One expression behind another. -/
  | seq (first second : Regex)
  /-- The first expression or else the second one. -/
  | alt (first second : Regex)
  /-- As many repetitions as possible. -/
  | many (body : Regex)
  /-- As few repetitions as possible. -/
  | few (body : Regex)
  /-- An expression whose text is reported. -/
  | group (body : Regex)

/-- One way to match the front of a text. -/
structure Match where
  /-- The matched front. -/
  text : Text
  /-- The texts of the groups. -/
  groups : List Text
  /-- The text behind the front. -/
  rest : Text
  deriving DecidableEq, Repr

namespace Match

/-- A match of nothing. -/
def empty (rest : Text) : Match :=
  ⟨[], [], rest⟩

/-- A match and one that starts where it ends. -/
def append (first second : Match) : Match :=
  ⟨first.text ++ second.text, first.groups ++ second.groups, second.rest⟩

/-- The character in front of the rest, where `before` stands in front of the match. -/
def last (found : Match) (before : Option Char) : Option Char :=
  found.text.getLast?.or before

@[simp]
theorem append_empty_left (rest : Text) : (empty rest).append = id := rfl

@[simp]
theorem last_empty (rest : Text) (before : Option Char) : (empty rest).last before = before := rfl

@[simp]
theorem rest_empty (rest : Text) : (empty rest).rest = rest := rfl

@[simp]
theorem rest_append (first second : Match) : (first.append second).rest = second.rest := rfl

theorem append_append (first second : Match) :
    (first.append second).append = first.append ∘ second.append := by
  funext third
  simp [append]

theorem last_append (first second : Match) (before : Option Char) :
    (first.append second).last before = second.last (first.last before) := by
  simp [append, last, List.getLast?_append, Option.or_assoc]

end Match

/-- The ways to match the front of a text behind a character, if one stands there. -/
abbrev Matcher := Option Char → Text → List Match

namespace Matcher

/-- Each way of the first matcher with each way of the second one behind it. -/
def followedBy (first second : Matcher) : Matcher := fun before text =>
  (first before text).flatMap fun found =>
    (second (found.last before) found.rest).map found.append

/-- Repetitions of a matcher.  One that leaves the text as it is does not count. -/
def repeated (lazy : Bool) (once : Matcher) (before : Option Char) (text : Text) : List Match :=
  let more := (once before text).flatMap fun found =>
    if found.rest.length < text.length then
      (repeated lazy once (found.last before) found.rest).map found.append
    else []
  if lazy then .empty text :: more else more ++ [.empty text]
termination_by text.length

/-- A matcher that never matches the empty text. -/
def Advances (once : Matcher) : Prop :=
  ∀ before text, ∀ found ∈ once before text, found.rest.length < text.length

theorem advances_followedBy {first second : Matcher} (first_advances : first.Advances)
    (second_advances : second.Advances) : (first.followedBy second).Advances := by
  intro before text found member
  obtain ⟨front, front_member, within⟩ := List.mem_flatMap.mp member
  obtain ⟨behind, behind_member, rfl⟩ := List.mem_map.mp within
  exact Nat.lt_trans (second_advances _ _ behind behind_member)
    (first_advances _ _ front front_member)

theorem repeated_of_advances {once : Matcher} (advances : once.Advances) (lazy : Bool)
    (before : Option Char) (text : Text) :
    repeated lazy once before text =
      if lazy then .empty text :: once.followedBy (repeated lazy once) before text
      else once.followedBy (repeated lazy once) before text ++ [.empty text] := by
  have more : (once before text).flatMap (fun found =>
        if found.rest.length < text.length then
          (repeated lazy once (found.last before) found.rest).map found.append
        else []) = once.followedBy (repeated lazy once) before text := by
    refine List.flatMap_congr fun found member => ?_
    rw [if_pos (advances before text found member)]
  rw [repeated, more]

end Matcher

namespace Regex

/-- The ways to match the front of a text, the preferred one first. -/
@[simp]
def matcher : Regex → Matcher
  | text front => fun _ text =>
      match Text.dropFront? front text with
      | some rest => [⟨front, [], rest⟩]
      | none => []
  | one accepts => fun _ text =>
      match text with
      | [] => []
      | c :: rest => if accepts c then [⟨[c], [], rest⟩] else []
  | lineStart => fun before text =>
      match before with
      | none => [.empty text]
      | some c => if c = '\n' then [.empty text] else []
  | lineEnd => fun _ text =>
      match text with
      | [] => [.empty text]
      | c :: _ => if c = '\n' then [.empty text] else []
  | textStart => fun before text => if before = none then [.empty text] else []
  | textEnd => fun _ text => if text = [] then [.empty text] else []
  | seq first second => first.matcher.followedBy second.matcher
  | alt first second => fun before text => first.matcher before text ++ second.matcher before text
  | many body => body.matcher.repeated false
  | few body => body.matcher.repeated true
  | group body => fun before text =>
      (body.matcher before text).map fun found =>
        { found with groups := found.text :: found.groups }

theorem advances_text {front : Text} (nonempty : front ≠ []) : (text front).matcher.Advances := by
  intro before text found member
  simp only [matcher] at member
  split at member
  · next rest dropped =>
      obtain rfl := List.mem_singleton.mp member
      have positive := List.length_pos_iff.mpr nonempty
      rw [Text.eq_append_of_dropFront? dropped, List.length_append]
      exact Nat.lt_add_of_pos_left positive
  · simp at member

theorem advances_one (accepts : Char → Bool) : (one accepts).matcher.Advances := by
  intro before text found member
  cases text with
  | nil => simp at member
  | cons c text =>
      simp only [matcher] at member
      split at member
      · obtain rfl := List.mem_singleton.mp member
        simp
      · simp at member

/-- One character of any kind, be it a newline. -/
def any : Regex :=
  one fun _ => true

theorem advances_any : any.matcher.Advances :=
  advances_one fun _ => true

/-- At least one repetition, and as many as possible. -/
def atLeastOne (body : Regex) : Regex :=
  seq body (many body)

theorem advances_seq {first second : Regex} (first_advances : first.matcher.Advances)
    (second_advances : second.matcher.Advances) : (seq first second).matcher.Advances :=
  Matcher.advances_followedBy first_advances second_advances

theorem advances_alt {first second : Regex} (first_advances : first.matcher.Advances)
    (second_advances : second.matcher.Advances) : (alt first second).matcher.Advances := by
  intro before text found member
  rcases List.mem_append.mp member with left | right
  · exact first_advances before text found left
  · exact second_advances before text found right

/-- The first way to match for which the search can go on, with the outcome of that search. -/
def firstThat? {α : Type} (regex : Regex) (goOn : Match → Option α) (before : Option Char)
    (text : Text) : Option α :=
  (regex.matcher before text).findSome? goOn

/-- The match at the front of a text. -/
def first? (regex : Regex) (before : Option Char) (text : Text) : Option Match :=
  (regex.matcher before text).head?

/-- The matches in a text and the characters outside of them, for an expression that does not match
the empty text. -/
def pieces (regex : Regex) (before : Option Char) (text : Text) : List (Char ⊕ Match) :=
  match text with
  | [] => []
  | c :: later =>
      match regex.first? before (c :: later) with
      | none => .inl c :: pieces regex (some c) later
      | some found =>
          if found.rest.length < (c :: later).length then
            .inr found :: pieces regex (found.last before) found.rest
          else .inl c :: pieces regex (some c) later
termination_by text.length
decreasing_by
  · exact Nat.lt_succ_self later.length
  · assumption
  · exact Nat.lt_succ_self later.length

/-- The matches in a text behind a character, from front to back. -/
def findAll (regex : Regex) (before : Option Char) (text : Text) : List Match :=
  (regex.pieces before text).filterMap Sum.getRight?

/-- The first match in a text behind a character. -/
def find? (regex : Regex) : Option Char → Text → Option Match
  | before, [] => regex.first? before []
  | before, c :: later => (regex.first? before (c :: later)).or (find? regex (some c) later)

/-- The text with a replacement for each match. -/
def replaceAll (regex : Regex) (replacement : Match → Text) (text : Text) : Text :=
  (regex.pieces none text).flatMap (Sum.elim ([·]) replacement)

/-! ## Laws of the search -/

private theorem findSome?_flatMap {α β γ : Type} (list : List α) (f : α → List β)
    (g : β → Option γ) :
    (list.flatMap f).findSome? g = list.findSome? fun a => (f a).findSome? g := by
  induction list with
  | nil => rfl
  | cons a list ih =>
      rw [List.flatMap_cons, List.findSome?_append, ih, List.findSome?_cons]
      cases (f a).findSome? g <;> rfl

section Search

variable {α : Type} {goOn : Match → Option α} {before : Option Char} {text : Text}

theorem first?_eq_firstThat? (regex : Regex) :
    regex.first? before text = regex.firstThat? some before text := by
  rw [first?, firstThat?]
  cases regex.matcher before text <;> rfl

theorem firstThat?_some (regex : Regex) (f : Match → α) :
    regex.firstThat? (fun found => some (f found)) before text =
      (regex.first? before text).map f := by
  rw [first?, firstThat?]
  cases regex.matcher before text <;> rfl

theorem firstThat?_seq (first second : Regex) :
    (seq first second).firstThat? goOn before text =
      first.firstThat? (fun found =>
        second.firstThat? (goOn ∘ found.append) (found.last before) found.rest) before text := by
  simp only [firstThat?, matcher, Matcher.followedBy, findSome?_flatMap, List.findSome?_map]

theorem firstThat?_alt (first second : Regex) :
    (alt first second).firstThat? goOn before text =
      (first.firstThat? goOn before text).or (second.firstThat? goOn before text) := by
  simp only [firstThat?, matcher, List.findSome?_append]

theorem firstThat?_group (body : Regex) :
    (group body).firstThat? goOn before text =
      body.firstThat? (fun found => goOn { found with groups := found.text :: found.groups })
        before text := by
  simp only [firstThat?, matcher, List.findSome?_map, Function.comp_def]

theorem firstThat?_text_append (front rest : Text) :
    (Regex.text front).firstThat? goOn before (front ++ rest) = goOn ⟨front, [], rest⟩ := by
  simp [firstThat?, Text.dropFront?_append]

theorem firstThat?_text_of_none {front : Text} (absent : Text.dropFront? front text = none) :
    (Regex.text front).firstThat? goOn before text = none := by
  simp [firstThat?, absent]

theorem firstThat?_one_of_pos {accepts : Char → Bool} {c : Char} (accepted : accepts c = true) :
    (one accepts).firstThat? goOn before (c :: text) = goOn ⟨[c], [], text⟩ := by
  simp [firstThat?, accepted]

theorem firstThat?_one_of_neg {accepts : Char → Bool}
    (refused : ∀ c ∈ text.head?, accepts c = false) :
    (one accepts).firstThat? goOn before text = none := by
  cases text with
  | nil => rfl
  | cons c text => simp [firstThat?, refused c rfl]

theorem firstThat?_lineStart_of_pos (starts : ∀ c ∈ before, c = '\n') :
    lineStart.firstThat? goOn before text = goOn (.empty text) := by
  cases before with
  | none => simp [firstThat?]
  | some c => simp [firstThat?, starts c rfl]

theorem firstThat?_lineStart_of_neg {c : Char} (inside : c ≠ '\n') :
    lineStart.firstThat? goOn (some c) text = none := by
  simp [firstThat?, inside]

theorem firstThat?_lineEnd_of_pos (ended : ∀ c ∈ text.head?, c = '\n') :
    lineEnd.firstThat? goOn before text = goOn (.empty text) := by
  cases text with
  | nil => simp [firstThat?]
  | cons c text => simp [firstThat?, ended c rfl]

theorem firstThat?_lineEnd_of_neg {c : Char} (inside : c ≠ '\n') :
    lineEnd.firstThat? goOn before (c :: text) = none := by
  simp [firstThat?, inside]

theorem firstThat?_textEnd_nil : textEnd.firstThat? goOn before [] = goOn (.empty []) := by
  simp [firstThat?]

theorem firstThat?_text_seq (front rest : Text) (next : Regex) :
    (seq (.text front) next).firstThat? goOn before (front ++ rest) =
      next.firstThat? (goOn ∘ Match.append ⟨front, [], rest⟩) (front.getLast?.or before) rest := by
  rw [firstThat?_seq, firstThat?_text_append]
  rfl

theorem firstThat?_text_seq_of_none {front : Text} (absent : Text.dropFront? front text = none)
    (next : Regex) : (seq (.text front) next).firstThat? goOn before text = none := by
  rw [firstThat?_seq, firstThat?_text_of_none absent]

theorem first?_textStart_seq (next : Regex) :
    (seq textStart next).first? none text = next.first? none text := by
  simp [first?, Matcher.followedBy]

theorem first?_textStart_seq_some (next : Regex) (c : Char) :
    (seq textStart next).first? (some c) text = none := by
  simp [first?, Matcher.followedBy]

theorem firstThat?_many {body : Regex} (advances : body.matcher.Advances) :
    (many body).firstThat? goOn before text =
      (body.firstThat? (fun found =>
        (many body).firstThat? (goOn ∘ found.append) (found.last before) found.rest)
        before text).or (goOn (.empty text)) := by
  rw [firstThat?, matcher, Matcher.repeated_of_advances advances]
  simp [firstThat?, Matcher.followedBy, findSome?_flatMap, List.findSome?_map, matcher]

theorem firstThat?_few {body : Regex} (advances : body.matcher.Advances) :
    (few body).firstThat? goOn before text =
      (goOn (.empty text)).or
        (body.firstThat? (fun found =>
          (few body).firstThat? (goOn ∘ found.append) (found.last before) found.rest)
          before text) := by
  rw [firstThat?, matcher, Matcher.repeated_of_advances advances, if_pos rfl, List.findSome?_cons]
  simp only [firstThat?, Matcher.followedBy, findSome?_flatMap, List.findSome?_map, matcher]
  cases goOn (.empty text) <;> rfl

theorem firstThat?_seq_many {body : Regex} (advances : body.matcher.Advances) (next : Regex) :
    (seq (many body) next).firstThat? goOn before text =
      (body.firstThat? (fun found =>
        (seq (many body) next).firstThat? (goOn ∘ found.append) (found.last before) found.rest)
        before text).or (next.firstThat? goOn before text) := by
  rw [firstThat?_seq, firstThat?_many advances]
  simp only [firstThat?_seq, Function.comp_def, Match.append_append, Match.last_append,
    Match.rest_append, Match.append_empty_left, Match.last_empty, Match.rest_empty, id_eq]

theorem firstThat?_seq_few {body : Regex} (advances : body.matcher.Advances) (next : Regex) :
    (seq (few body) next).firstThat? goOn before text =
      (next.firstThat? goOn before text).or
        (body.firstThat? (fun found =>
          (seq (few body) next).firstThat? (goOn ∘ found.append) (found.last before) found.rest)
          before text) := by
  rw [firstThat?_seq, firstThat?_few advances]
  simp only [firstThat?_seq, Function.comp_def, Match.append_append, Match.last_append,
    Match.rest_append, Match.append_empty_left, Match.last_empty, Match.rest_empty, id_eq]

/-- A run of characters is not given up in part if what follows cannot begin with one of them. -/
theorem firstThat?_many_one {accepts : Char → Bool} (whole : ∀ front c back, accepts c = true →
      goOn ⟨front, [], c :: back⟩ = none) :
    (many (one accepts)).firstThat? goOn before text =
      goOn ⟨text.takeWhile accepts, [], text.dropWhile accepts⟩ := by
  induction text generalizing goOn before with
  | nil =>
      rw [firstThat?_many (advances_one accepts)]
      rfl
  | cons c text ih =>
      rw [firstThat?_many (advances_one accepts)]
      cases inside : accepts c with
      | true =>
          have later : ∀ front d back, accepts d = true →
              (goOn ∘ Match.append ⟨[c], [], text⟩) ⟨front, [], d :: back⟩ = none :=
            fun front d back accepted => whole (c :: front) d back accepted
          rw [firstThat?_one_of_pos inside, ih later, Match.empty, whole [] c text inside,
            Option.or_none, List.takeWhile_cons_of_pos inside, List.dropWhile_cons_of_pos inside]
          rfl
      | false =>
          rw [firstThat?_one_of_neg (by simpa using inside), Option.none_or]
          simp [inside, Match.empty]

/-- A run of characters is as long as possible if the search can go on behind it. -/
theorem firstThat?_many_one_of_some {accepts : Char → Bool} {outcome : α}
    (succeeds : goOn ⟨text.takeWhile accepts, [], text.dropWhile accepts⟩ = some outcome) :
    (many (one accepts)).firstThat? goOn before text = some outcome := by
  induction text generalizing goOn before with
  | nil =>
      rw [firstThat?_many (advances_one accepts)]
      exact succeeds
  | cons c text ih =>
      rw [firstThat?_many (advances_one accepts)]
      cases inside : accepts c with
      | true =>
          rw [List.takeWhile_cons_of_pos inside, List.dropWhile_cons_of_pos inside] at succeeds
          have later : (goOn ∘ Match.append ⟨[c], [], text⟩)
              ⟨text.takeWhile accepts, [], text.dropWhile accepts⟩ = some outcome := succeeds
          rw [firstThat?_one_of_pos inside, ih later]
          rfl
      | false =>
          rw [firstThat?_one_of_neg (by simpa using inside), Option.none_or]
          simpa [inside, Match.empty] using succeeds

theorem exists_cons_of_takeWhile_ne_nil {accepts : Char → Bool}
    (nonempty : text.takeWhile accepts ≠ []) : ∃ c later, text = c :: later ∧ accepts c = true := by
  cases text with
  | nil => exact absurd rfl nonempty
  | cons c later =>
      refine ⟨c, later, rfl, ?_⟩
      by_contra refused
      simp [refused] at nonempty

theorem firstThat?_atLeastOne_one_of_nil {accepts : Char → Bool}
    (refused : text.takeWhile accepts = []) :
    (atLeastOne (one accepts)).firstThat? goOn before text = none := by
  rw [atLeastOne, firstThat?_seq]
  refine firstThat?_one_of_neg fun c first => ?_
  obtain ⟨text, rfl⟩ := List.head?_eq_some_iff.mp first
  cases inside : accepts c with
  | true => simp [inside] at refused
  | false => rfl

theorem firstThat?_atLeastOne_one {accepts : Char → Bool} (whole : ∀ front c back,
      accepts c = true → goOn ⟨front, [], c :: back⟩ = none) :
    (atLeastOne (one accepts)).firstThat? goOn before text =
      if text.takeWhile accepts = [] then none
      else goOn ⟨text.takeWhile accepts, [], text.dropWhile accepts⟩ := by
  split
  · next refused => exact firstThat?_atLeastOne_one_of_nil refused
  · next nonempty =>
      obtain ⟨c, text, rfl, inside⟩ := exists_cons_of_takeWhile_ne_nil nonempty
      rw [atLeastOne, firstThat?_seq, firstThat?_one_of_pos inside,
        firstThat?_many_one fun front => whole (c :: front)]
      simp [inside, Match.append]

theorem firstThat?_atLeastOne_one_of_some {accepts : Char → Bool} {outcome : α}
    (nonempty : text.takeWhile accepts ≠ [])
    (succeeds : goOn ⟨text.takeWhile accepts, [], text.dropWhile accepts⟩ = some outcome) :
    (atLeastOne (one accepts)).firstThat? goOn before text = some outcome := by
  obtain ⟨c, text, rfl, inside⟩ := exists_cons_of_takeWhile_ne_nil nonempty
  rw [List.takeWhile_cons_of_pos inside, List.dropWhile_cons_of_pos inside] at succeeds
  rw [atLeastOne, firstThat?_seq, firstThat?_one_of_pos inside]
  exact firstThat?_many_one_of_some succeeds

theorem firstThat?_fewAny_nil (next : Regex) :
    (seq (few any) next).firstThat? goOn before [] = next.firstThat? goOn before [] := by
  rw [firstThat?_seq_few advances_any]
  cases next.firstThat? goOn before [] <;> rfl

theorem firstThat?_fewAny_cons (next : Regex) (c : Char) :
    (seq (few any) next).firstThat? goOn before (c :: text) =
      (next.firstThat? goOn before (c :: text)).or
        ((seq (few any) next).firstThat? (goOn ∘ Match.append ⟨[c], [], text⟩) (some c) text) := by
  have taken {goOn : Match → Option α} :
      any.firstThat? goOn before (c :: text) = goOn ⟨[c], [], text⟩ := firstThat?_one_of_pos rfl
  rw [firstThat?_seq_few advances_any, taken]
  rfl

end Search

/-! ## Matches in a text -/

/-- A match that starts where the text does is found there or not at all. -/
theorem find?_textStart_seq (next : Regex) (text : Text) :
    (seq textStart next).find? none text = next.first? none text := by
  have no_later (c : Char) (later : Text) : (seq textStart next).find? (some c) later = none := by
    induction later generalizing c with
    | nil => exact first?_textStart_seq_some next c
    | cons d later ih => rw [find?, first?_textStart_seq_some, ih, Option.or_none]
  cases text with
  | nil => exact first?_textStart_seq next
  | cons c later => rw [find?, no_later, Option.or_none, first?_textStart_seq]

@[simp]
theorem pieces_nil (regex : Regex) (before : Option Char) : regex.pieces before [] = [] := by
  rw [pieces]

theorem pieces_of_none {regex : Regex} {before : Option Char} {c : Char} {text : Text}
    (no_match : regex.first? before (c :: text) = none) :
    regex.pieces before (c :: text) = .inl c :: regex.pieces (some c) text := by
  rw [pieces, no_match]

theorem pieces_of_some {regex : Regex} {before : Option Char} {c : Char} {text : Text}
    {found : Match} (matched : regex.first? before (c :: text) = some found)
    (shorter : found.rest.length ≤ text.length) :
    regex.pieces before (c :: text) =
      .inr found :: regex.pieces (found.last before) found.rest := by
  rw [pieces, matched]
  exact if_pos (Nat.lt_succ_of_le shorter)

@[simp]
theorem findAll_nil (regex : Regex) (before : Option Char) : regex.findAll before [] = [] := by
  simp [findAll]

theorem findAll_of_none {regex : Regex} {before : Option Char} {c : Char} {text : Text}
    (no_match : regex.first? before (c :: text) = none) :
    regex.findAll before (c :: text) = regex.findAll (some c) text := by
  rw [findAll, pieces_of_none no_match]
  rfl

theorem findAll_of_some {regex : Regex} {before : Option Char} {c : Char} {text : Text}
    {found : Match} (matched : regex.first? before (c :: text) = some found)
    (shorter : found.rest.length ≤ text.length) :
    regex.findAll before (c :: text) = found :: regex.findAll (found.last before) found.rest := by
  rw [findAll, pieces_of_some matched shorter]
  rfl

end Regex
end CHeader
