import Mathlib.Data.List.Chain
import Mathlib.Data.List.TakeWhile
import CHeader.Proofs.Lines

/-!
# The rules of the scanner

A token at the front of a text is read by one of four rules.  This file states the rules and shows
that the scanner follows them, and it describes the search for the end of a literal or of a block
comment without the body: by the text that remains, and by the pairs of neighbours that occur.
-/

namespace CHeader
namespace Token

/-! ## Ends of comments and literals -/

/-- Two neighbours that do not end a block comment. -/
def KeepsOpen (left right : Char) : Prop :=
  ¬ (left = '*' ∧ right = '/')

theorem blockBody?_eq_none_iff {text : Text} :
    blockBody? text = none ↔ text.IsChain KeepsOpen := by
  fun_induction blockBody? text with
  | case1 => simp
  | case2 rest => simp [KeepsOpen]
  | case3 c text different ih =>
      rw [Option.map_eq_none_iff, ih]
      cases text with
      | nil => simp
      | cons d text =>
          have keeps : KeepsOpen c d := by
            rintro ⟨rfl, rfl⟩
            exact different text rfl rfl
          simp [keeps]

theorem blockBody?_append {body : Text} (no_end : ¬ ['*', '/'] <:+: body) (rest : Text) :
    blockBody? (body ++ '*' :: '/' :: rest) = some (body, rest) := by
  induction body with
  | nil => rfl
  | cons c body ih =>
      rw [List.cons_append, blockBody?, ih fun within => no_end (List.infix_cons within)]
      · rfl
      · rintro later rfl front
        cases body with
        | nil => simp at front
        | cons d body =>
            obtain ⟨rfl, -⟩ := List.cons.inj front
            exact no_end ⟨[], body, rfl⟩

theorem not_infix_of_blockBody? {text body rest : Text}
    (found : blockBody? text = some (body, rest)) : ¬ ['*', '/'] <:+: body := by
  fun_induction blockBody? text generalizing body with
  | case1 => simp at found
  | case2 rest' =>
      simp only [Option.some.injEq, Prod.mk.injEq] at found
      simp [← found.1]
  | case3 c text different ih =>
      obtain ⟨⟨body', rest'⟩, found', same⟩ := Option.map_eq_some_iff.mp found
      simp only [Prod.mk.injEq] at same
      obtain ⟨rfl, rfl⟩ := same
      rw [List.infix_cons_iff]
      rintro (⟨later, front⟩ | within)
      · obtain ⟨rfl, rfl⟩ := List.cons.inj front
        exact different (later ++ '*' :: '/' :: rest') rfl (blockBody?_source found')
      · exact ih found' within

/-- A body goes up to the first place where a comment can end. -/
theorem blockBody?_eq_some_iff {text body rest : Text} :
    blockBody? text = some (body, rest) ↔
      text = body ++ '*' :: '/' :: rest ∧ ¬ ['*', '/'] <:+: body := by
  constructor
  · intro found
    exact ⟨blockBody?_source found, not_infix_of_blockBody? found⟩
  · rintro ⟨rfl, no_end⟩
    exact blockBody?_append no_end rest

theorem literalBody?_replace {quote : Char} {text body rest : Text}
    (found : literalBody? quote text = some (body, rest)) (other : Text) :
    literalBody? quote (body ++ quote :: other) = some (body, other) := by
  fun_induction literalBody? quote text generalizing body with
  | case1 => simp at found
  | case2 => simp at found
  | case3 c text ih =>
      obtain ⟨⟨body', rest'⟩, found', same⟩ := Option.map_eq_some_iff.mp found
      simp only [Prod.mk.injEq] at same
      obtain ⟨rfl, rfl⟩ := same
      simp [literalBody?, ih found']
  | case4 text plain =>
      simp only [Option.some.injEq, Prod.mk.injEq] at found
      obtain ⟨rfl, rfl⟩ := found
      rw [List.nil_append, literalBody?]
      · simp
      · exact plain
  | case5 c text plain different ih =>
      obtain ⟨⟨body', rest'⟩, found', same⟩ := Option.map_eq_some_iff.mp found
      simp only [Prod.mk.injEq] at same
      obtain ⟨rfl, rfl⟩ := same
      rw [List.cons_append, literalBody?]
      · simp [different, ih found']
      · exact plain

/-- The text behind the first `quote` that no backslash escapes.  The flag says whether a backslash
right before the text escapes its first character. -/
def behindQuote? (quote : Char) : Bool → Text → Option Text
  | _, [] => none
  | true, _ :: text => behindQuote? quote false text
  | false, c :: text =>
      if c = '\\' then behindQuote? quote true text
      else if c = quote then some text
      else behindQuote? quote false text

theorem literalBody?_map_snd (quote : Char) (text : Text) :
    (literalBody? quote text).map Prod.snd = behindQuote? quote false text := by
  fun_induction literalBody? quote text with
  | case1 => rfl
  | case2 => simp [behindQuote?]
  | case3 c text ih => simp [behindQuote?, ← ih, Function.comp_def]
  | case4 text not_backslash =>
      have different : quote ≠ '\\' := not_backslash
      simp [behindQuote?, different]
  | case5 c text not_backslash not_quote ih =>
      have different : c ≠ '\\' := not_backslash
      simp [behindQuote?, different, not_quote, ← ih, Function.comp_def]

theorem literalBody?_eq_none_iff {quote : Char} {text : Text} :
    literalBody? quote text = none ↔ behindQuote? quote false text = none := by
  rw [← literalBody?_map_snd, Option.map_eq_none_iff]

/-- An unsuccessful search leaves behind nothing but whether the next character is escaped. -/
theorem behindQuote?_append {quote : Char} {escaped : Bool} {front : Text}
    (still_open : behindQuote? quote escaped front = none) :
    ∃ escaped', ∀ back,
      behindQuote? quote escaped (front ++ back) = behindQuote? quote escaped' back := by
  fun_induction behindQuote? quote escaped front with
  | case1 escaped => exact ⟨escaped, fun back => rfl⟩
  | case2 c front ih =>
      obtain ⟨escaped', same⟩ := ih still_open
      exact ⟨escaped', fun back => by simp [behindQuote?, same]⟩
  | case3 front ih =>
      obtain ⟨escaped', same⟩ := ih still_open
      exact ⟨escaped', fun back => by simp [behindQuote?, same]⟩
  | case4 front not_backslash => simp at still_open
  | case5 c front not_backslash not_quote ih =>
      obtain ⟨escaped', same⟩ := ih still_open
      exact ⟨escaped', fun back => by simp [behindQuote?, not_backslash, not_quote, same]⟩

/-- A successful search does not look at what follows the quote. -/
theorem behindQuote?_append_of_some {quote : Char} {escaped : Bool} {front rest : Text}
    (found : behindQuote? quote escaped front = some rest) (back : Text) :
    behindQuote? quote escaped (front ++ back) = some (rest ++ back) := by
  fun_induction behindQuote? quote escaped front with
  | case1 => simp at found
  | case2 c front ih => simpa [behindQuote?] using ih found
  | case3 front ih => simpa [behindQuote?] using ih found
  | case4 front not_backslash =>
      obtain rfl := Option.some.inj found
      simp [behindQuote?, not_backslash]
  | case5 c front not_backslash not_quote ih =>
      simpa [behindQuote?, not_backslash, not_quote] using ih found

/-- A search that fails on a whole text fails on its front and goes on behind it. -/
theorem behindQuote?_split {quote : Char} {escaped : Bool} {front back : Text}
    (still_open : behindQuote? quote escaped (front ++ back) = none) :
    ∃ escaped', behindQuote? quote escaped' back = none ∧ ∀ other,
      behindQuote? quote escaped (front ++ other) = behindQuote? quote escaped' other := by
  cases within : behindQuote? quote escaped front with
  | none =>
      obtain ⟨escaped', same⟩ := behindQuote?_append within
      exact ⟨escaped', same back ▸ still_open, same⟩
  | some rest =>
      rw [behindQuote?_append_of_some within back] at still_open
      simp at still_open

theorem not_backslash_of_isQuote {c : Char} (quote : isQuote c = true) : c ≠ '\\' := by
  rintro rfl
  simp [isQuote] at quote

/-- An ordinary character leads to the same search, whether it is escaped or not. -/
theorem behindQuote?_cons_of_ne {quote c : Char} (not_backslash : c ≠ '\\') (not_quote : c ≠ quote)
    (escaped : Bool) (text : Text) :
    behindQuote? quote escaped (c :: text) = behindQuote? quote false text := by
  cases escaped with
  | false => simp [behindQuote?, not_backslash, not_quote]
  | true => rfl

/-! ## The four rules -/

/-- The rules by which a token is read: the first character and the text behind it, the token, and
the text that remains. -/
inductive Reads : Char → Text → Token → Text → Prop where
  | lineComment {body rest : Text} (one_line : '\n' ∉ body) (ended : ∀ c ∈ rest.head?, c = '\n') :
      Reads '/' ('/' :: (body ++ rest)) (lineComment body) rest
  | blockComment {inner body rest : Text} (found : blockBody? inner = some (body, rest)) :
      Reads '/' ('*' :: inner) (blockComment body) rest
  | literal {quote : Char} {text body rest : Text} (opens : isQuote quote = true)
      (found : literalBody? quote text = some (body, rest)) :
      Reads quote text (literal quote body) rest
  | plain {c : Char} {text : Text} (no_literal : isQuote c = true → literalBody? c text = none)
      (no_line_comment : c = '/' → text.head? ≠ some '/')
      (no_block_comment : ∀ inner, c = '/' → text = '*' :: inner → blockBody? inner = none) :
      Reads c text (plain c) text

theorem reads_next (c : Char) (text : Text) : Reads c text (next c text).1 (next c text).2 := by
  unfold next
  split
  · next rest =>
      have one_line : '\n' ∉ rest.takeWhile (· ≠ '\n') := fun member => by
        simpa using List.mem_takeWhile_imp member
      have ended : ∀ c ∈ (rest.dropWhile (· ≠ '\n')).head?, c = '\n' := by
        intro c first
        simpa using Text.of_mem_head?_dropWhile first
      simpa only [List.takeWhile_append_dropWhile] using Reads.lineComment one_line ended
  · next rest =>
      split
      · next found => exact .blockComment found
      · next still_open =>
          refine .plain (by simp [isQuote]) (by simp) fun inner _ same => ?_
          obtain rfl := (List.cons.inj same).2
          exact still_open
  · next no_line no_block =>
      have no_line_comment : c = '/' → text.head? ≠ some '/' := by
        intro slash first
        cases text with
        | nil => simp at first
        | cons d rest => exact no_line rest slash (by simpa using first)
      have no_block_comment : ∀ inner, c = '/' → text = '*' :: inner → blockBody? inner = none :=
        fun inner slash star => (no_block inner slash star).elim
      split
      · next opens =>
          split
          · next found => exact .literal opens found
          · next still_open => exact .plain (fun _ => still_open) no_line_comment no_block_comment
      · next opens_nothing =>
          exact .plain (fun opens => absurd opens opens_nothing) no_line_comment no_block_comment

theorem exists_reads (c : Char) (text : Text) : ∃ token rest, Reads c text token rest :=
  ⟨_, _, reads_next c text⟩

/-- The rules leave no choice. -/
theorem Reads.next_eq {c : Char} {text rest : Text} {token : Token}
    (reads : Reads c text token rest) : next c text = (token, rest) := by
  cases reads with
  | @lineComment body rest one_line ended =>
      have inside : ∀ c ∈ body, decide (c ≠ '\n') = true := fun c member => by
        simpa using fun same : c = '\n' => one_line (same ▸ member)
      have outside : rest.takeWhile (· ≠ '\n') = [] ∧ rest.dropWhile (· ≠ '\n') = rest := by
        cases rest with
        | nil => simp
        | cons d rest => simp [ended d rfl]
      simp only [next, List.takeWhile_append_of_pos inside, List.dropWhile_append_of_pos inside,
        outside, List.append_nil]
  | blockComment found => simp [next, found]
  | literal opens found =>
      unfold next
      split
      · simp [isQuote] at opens
      · simp [isQuote] at opens
      · simp [opens, found]
  | plain no_literal no_line_comment no_block_comment =>
      unfold next
      split
      · next rest => exact absurd rfl (no_line_comment rfl)
      · next inner => simp [no_block_comment inner rfl rfl]
      · split
        · next opens => simp [no_literal opens]
        · rfl

theorem scan_of_reads {c : Char} {text rest : Text} {token : Token}
    (reads : Reads c text token rest) : scan (c :: text) = token :: scan rest := by
  rw [scan_cons, reads.next_eq]

theorem Reads.source_append {c : Char} {text rest : Text} {token : Token}
    (reads : Reads c text token rest) : token.source ++ rest = c :: text := by
  simpa [reads.next_eq] using next_source c text

theorem Reads.length_le {c : Char} {text rest : Text} {token : Token}
    (reads : Reads c text token rest) : rest.length ≤ text.length := by
  simpa [reads.next_eq] using next_length_le c text

theorem source_literal_append (quote : Char) (body rest : Text) :
    (literal quote body).source ++ rest = quote :: (body ++ quote :: rest) := by
  simp [source]

theorem exists_slash_of_isComment {token : Token} (comment : token.isComment = true) :
    ∃ tail, token.source = '/' :: tail := by
  cases token with
  | lineComment body => exact ⟨'/' :: body, rfl⟩
  | blockComment body => exact ⟨'*' :: body ++ ['*', '/'], rfl⟩
  | literal => simp [isComment] at comment
  | plain => simp [isComment] at comment

/-- Induction along the tokens of a text. -/
theorem scan_induction {motive : Text → Prop} (nil : motive [])
    (token : ∀ c text token rest, Reads c text token rest → motive rest → motive (c :: text))
    (text : Text) : motive text := by
  fun_induction scan text with
  | case1 => exact nil
  | case2 c text ih => exact token c text _ _ (reads_next c text) ih

/-! ## Texts without open ends -/

/-- Every quote and every `/*` that the scanner meets outside of literals and comments begins a
literal or a comment that is complete. -/
structure IsComplete (text : Text) : Prop where
  /-- No quote is read on its own. -/
  quotes : ∀ quote, isQuote quote = true → plain quote ∉ scan text
  /-- No slash in front of a star is read on its own. -/
  comments : ¬ [plain '/', plain '*'] <:+: scan text

theorem Reads.isComplete {c : Char} {text rest : Text} {token : Token}
    (reads : Reads c text token rest) (complete : IsComplete (c :: text)) : IsComplete rest := by
  obtain ⟨quotes, comments⟩ := complete
  rw [scan_of_reads reads] at quotes comments
  constructor
  · intro quote opens member
    exact quotes quote opens (List.mem_cons_of_mem token member)
  · intro neighbours
    exact comments (List.infix_cons neighbours)

theorem scan_star (text : Text) : scan ('*' :: text) = plain '*' :: scan text :=
  scan_of_reads (.plain (by simp [isQuote]) (by simp) (by simp))

/-- The scanner comes to the end of a text inside a line comment. -/
def EndsInLineComment (text : Text) : Prop :=
  ∃ body, (scan text).getLast? = some (lineComment body)

/-- The front of a text neither makes a comment of a slash in front of it nor continues a line
comment. -/
structure CanFollow (front text : Text) : Prop where
  no_comment : ∀ c ∈ text.head?, c ≠ '/' ∧ c ≠ '*'
  ends_line : EndsInLineComment front → ∀ c ∈ text.head?, c = '\n'

theorem canFollow_newline (front later : Text) : CanFollow front ('\n' :: later) := by
  constructor <;> simp

theorem Reads.canFollow {c : Char} {text rest back : Text} {token : Token}
    (reads : Reads c text token rest) (follows : CanFollow (c :: text) back) :
    CanFollow rest back := by
  refine ⟨follows.no_comment, fun ⟨body, last⟩ => follows.ends_line ⟨body, ?_⟩⟩
  have nonempty : scan rest ≠ [] := fun empty => by simp [empty] at last
  rw [scan_of_reads reads, List.getLast?_cons_of_ne_nil nonempty, last]

/-- The tokens of a complete text stay as they are in front of a text that can follow it. -/
theorem Reads.append {c : Char} {text rest back : Text} {token : Token}
    (reads : Reads c text token rest) (complete : IsComplete (c :: text))
    (follows : CanFollow (c :: text) back) : Reads c (text ++ back) token (rest ++ back) := by
  have ⟨quotes, comments⟩ := complete
  rw [scan_of_reads reads] at quotes comments
  have ⟨no_comment, ends_line⟩ := follows
  simp only [EndsInLineComment, scan_of_reads reads] at ends_line
  cases reads with
  | @lineComment body _ one_line ended =>
      rw [List.cons_append, List.append_assoc]
      refine .lineComment one_line ?_
      cases rest with
      | nil => exact ends_line ⟨body, by simp [scan_nil]⟩
      | cons d rest => simpa using ended
  | blockComment found =>
      obtain ⟨rfl, no_end⟩ := blockBody?_eq_some_iff.mp found
      rw [List.cons_append, List.append_assoc]
      exact .blockComment (blockBody?_append no_end (rest ++ back))
  | literal opens found =>
      have later_found := literalBody?_replace found (rest ++ back)
      rw [literalBody?_source found, List.append_assoc]
      exact .literal opens later_found
  | plain no_literal no_line_comment no_block_comment =>
      refine .plain ?_ ?_ ?_
      · intro opens
        exact absurd List.mem_cons_self (quotes c opens)
      · intro slash
        cases text with
        | nil => exact fun first => (no_comment '/' first).1 rfl
        | cons d text => simpa using no_line_comment slash
      · rintro inner rfl star
        cases text with
        | nil => exact absurd rfl (no_comment '*' (by simp [show back = '*' :: inner from star])).2
        | cons d text =>
            obtain ⟨rfl, -⟩ := List.cons.inj star
            rw [scan_star] at comments
            exact absurd ⟨[], scan text, rfl⟩ comments

theorem scan_append {text back : Text} (complete : IsComplete text)
    (follows : CanFollow text back) : scan (text ++ back) = scan text ++ scan back := by
  induction text using scan_induction with
  | nil => rw [scan_nil, List.nil_append, List.nil_append]
  | token c text token rest reads ih =>
      rw [List.cons_append, scan_of_reads (reads.append complete follows), scan_of_reads reads,
        List.cons_append, ih (reads.isComplete complete) (reads.canFollow follows)]

/-! ## Texts without comments and literals -/

/-- Characters that neither a comment nor a literal begins with. -/
def IsOrdinary (c : Char) : Prop :=
  c ≠ '/' ∧ isQuote c = false

theorem scan_of_ordinary {text : Text} (ordinary : ∀ c ∈ text, IsOrdinary c) :
    scan text = text.map plain := by
  induction text with
  | nil => exact scan_nil
  | cons c text ih =>
      obtain ⟨⟨no_slash, no_quote⟩, ordinary⟩ := List.forall_mem_cons.mp ordinary
      have reads : Reads c text (plain c) text :=
        .plain (fun opens => by simp [no_quote] at opens) (fun slash => absurd slash no_slash)
          (fun _ slash => absurd slash no_slash)
      rw [scan_of_reads reads, ih ordinary, List.map_cons]

theorem isComplete_of_plain {text : Text} (ordinary : ∀ c, plain c ∈ scan text → IsOrdinary c) :
    IsComplete text := by
  constructor
  · intro quote opens member
    simp [(ordinary quote member).2] at opens
  · intro neighbours
    exact (ordinary '/' (neighbours.subset List.mem_cons_self)).1 rfl

theorem isComplete_of_ordinary {text : Text} (ordinary : ∀ c ∈ text, IsOrdinary c) :
    IsComplete text := by
  refine isComplete_of_plain fun c member => ?_
  rw [scan_of_ordinary ordinary] at member
  obtain ⟨d, inside, same⟩ := List.mem_map.mp member
  exact Token.plain.inj same ▸ ordinary d inside

end Token
end CHeader
