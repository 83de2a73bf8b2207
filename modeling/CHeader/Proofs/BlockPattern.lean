import CHeader.Proofs.Blocks
import CHeader.Proofs.Lines
import CHeader.Proofs.Regex

/-!
# The pattern of blocks

The blocks of a kind are the matches of one pattern in the normal form of a header.  The pattern
has two runs of characters.  The one in front of the brace is as long as the line lets it, and gives
characters back until the rest of the block follows; the one behind the brace ends at the first
closing brace, so that there is nothing to give back.
-/

namespace CHeader

namespace BlockParts

/-- A character of a line. -/
def headChar : Regex :=
  .one fun c => c ≠ '\n'

/-- A character of a body. -/
def bodyChar : Regex :=
  .one fun c => c ≠ '}'

/-- The body and what closes it. -/
def closingPattern : Regex :=
  .seq (.atLeastOne bodyChar) (.text ['}', ';'])

/-- What follows the keyword and one space. -/
def tailPattern : Regex :=
  .seq (.many headChar) (.seq (.text [' ', '{']) closingPattern)

/-- A block of the given kind. -/
def pattern (kind : BlockKind) : Regex :=
  .seq (.text (kind.keyword ++ [' '])) tailPattern

theorem body?_eq (text : Text) :
    body? text =
      if text.takeWhile (· ≠ '}') = [] then none
      else (Text.dropFront? ['}', ';'] (text.dropWhile (· ≠ '}'))).map
        (text.takeWhile (· ≠ '}'), ·) := by
  cases cut : Text.cut? '}' text with
  | none =>
      have fresh := Text.cut?_eq_none_iff.mp cut
      have inside : ∀ c ∈ text, decide (c ≠ '}') = true := fun c member =>
        decide_eq_true fun same : c = '}' => fresh (same ▸ member)
      rw [List.dropWhile_eq_nil_iff.mpr inside, body?, cut]
      simp [Text.dropFront?]
  | some parts =>
      obtain ⟨body, rest⟩ := parts
      obtain ⟨rfl, fresh⟩ := Text.cut?_eq_some_iff.mp cut
      have inside : ∀ c ∈ body, decide (c ≠ '}') = true := fun c member =>
        decide_eq_true fun same : c = '}' => fresh (same ▸ member)
      have stops : ∀ c ∈ ('}' :: rest).head?, decide (c ≠ '}') = false := by simp
      rw [Text.takeWhile_append_eq_left inside stops, Text.dropWhile_append_eq_right inside stops,
        body?, cut]
      cases rest with
      | nil => simp [Text.dropFront?]
      | cons c rest =>
          by_cases semicolon : c = ';'
          · subst semicolon
            simp [Text.dropFront?]
          · simp [Text.dropFront?, semicolon, Ne.symm semicolon]

section Search

open Regex

variable {α : Type} {before : Option Char}

/-- There is only one body that can be closed. -/
theorem firstThat?_closingPattern (goOn : Match → Option α) (text : Text) :
    closingPattern.firstThat? goOn before text =
      (body? text).bind fun (body, rest) => goOn ⟨body ++ ['}', ';'], [], rest⟩ := by
  rw [closingPattern, firstThat?_seq, bodyChar, firstThat?_atLeastOne_one, body?_eq]
  · split
    · rfl
    · cases closed : Text.dropFront? ['}', ';'] (text.dropWhile (· ≠ '}')) with
      | none => exact firstThat?_text_of_none closed
      | some rest =>
          rw [Text.eq_append_of_dropFront? closed, firstThat?_text_append]
          rfl
  · intro front c back inside
    have other : c ≠ '}' := of_decide_eq_true inside
    exact firstThat?_text_of_none (by simp [Text.dropFront?, other.symm])

/-- Where no longer head leads to a block, the brace has to follow. -/
theorem firstThat?_opening {c : Char} {text : Text} (last : ofTail? text = none)
    (f : Match → α) :
    (Regex.seq (.text [' ', '{']) closingPattern).firstThat? (fun found => some (f found)) before
        (c :: text) =
      (ofTail? (c :: text)).map fun (parts, rest) => f ⟨parts.tail, [], rest⟩ := by
  cases opened : Text.dropFront? [' ', '{'] (c :: text) with
  | none =>
      rw [firstThat?_text_seq_of_none opened, ofTail?_cons_of_none last]
      · rfl
      · rintro ⟨rfl, first⟩
        obtain ⟨inner, rfl⟩ := List.head?_eq_some_iff.mp first
        simp [Text.dropFront?] at opened
  | some inner =>
      obtain ⟨rfl, text_eq⟩ := List.cons.inj (Text.eq_append_of_dropFront? opened)
      obtain rfl : text = '{' :: inner := text_eq
      refine (firstThat?_text_seq [' ', '{'] inner closingPattern).trans ?_
      rw [firstThat?_closingPattern]
      refine Eq.trans ?_ (congrArg (Option.map _) (ofTail?_open last)).symm
      cases body? inner <;> rfl

/-- The longest head for which the search can go on is the one that the reader takes. -/
theorem firstThat?_tailPattern (f : Match → α) (text : Text) :
    tailPattern.firstThat? (fun found => some (f found)) before text =
      (ofTail? text).map fun (parts, rest) => f ⟨parts.tail, [], rest⟩ := by
  induction text generalizing f before with
  | nil =>
      rw [tailPattern, headChar, firstThat?_seq_many (advances_one _)]
      rfl
  | cons c text ih =>
      rw [tailPattern, headChar, firstThat?_seq_many (advances_one _)]
      by_cases newline : c = '\n'
      · subst newline
        rw [firstThat?_one_of_neg (by simp), firstThat?_text_seq_of_none rfl, ofTail?_newline]
        rfl
      · rw [firstThat?_one_of_pos (decide_eq_true newline)]
        refine (congrArg (Option.or · _) (ih (f ∘ Match.append ⟨[c], [], text⟩))).trans ?_
        cases found : ofTail? text with
        | none =>
            rw [Option.map_none, Option.none_or]
            exact firstThat?_opening found f
        | some pair =>
            obtain ⟨parts, rest⟩ := pair
            rw [ofTail?_cons_of_some newline found]
            rfl

/-- The pattern matches at the front of a text what the reader reads there. -/
theorem first?_pattern (kind : BlockKind) (before : Option Char) (text : Text) :
    (pattern kind).first? before text =
      (ofText? kind text).map fun (parts, rest) => ⟨(parts.toBlock kind).text, [], rest⟩ := by
  rw [first?_eq_firstThat?, pattern, ofText?]
  cases keyword : Text.dropFront? (kind.keyword ++ [' ']) text with
  | none => exact firstThat?_text_seq_of_none keyword tailPattern
  | some behind =>
      obtain rfl := Text.eq_append_of_dropFront? keyword
      rw [firstThat?_text_seq]
      refine (firstThat?_tailPattern _ behind).trans ?_
      simp [toBlock, Match.append]

end Search

end BlockParts

namespace Block

open BlockParts

/-- The blocks of a text are the matches of the pattern. -/
theorem search_eq_findAll (kind : BlockKind) (before : Option Char) (text : Text) :
    search kind text = ((pattern kind).findAll before text).map fun found => ⟨found.text⟩ := by
  fun_induction search kind text generalizing before with
  | case1 => rw [Regex.findAll_nil, List.map_nil]
  | case2 c text parts rest found ih =>
      have matched := first?_pattern kind before (c :: text)
      rw [found, Option.map_some] at matched
      rw [Regex.findAll_of_some matched (Nat.le_of_lt_succ (length_lt_of_ofText? found)),
        List.map_cons, ← ih]
  | case3 c text none_found ih =>
      have unmatched := first?_pattern kind before (c :: text)
      rw [none_found, Option.map_none] at unmatched
      rw [Regex.findAll_of_none unmatched, ih (some c)]

/-- The blocks of a header are the matches of the pattern in its normal form. -/
theorem ofHeader_eq_findAll (kind : BlockKind) (text : Text) :
    ofHeader kind text =
      ((pattern kind).findAll none (Source.normalize text)).map fun found => ⟨found.text⟩ :=
  search_eq_findAll kind none (Source.normalize text)

end Block
end CHeader
