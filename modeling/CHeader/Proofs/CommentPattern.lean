import CHeader.Proofs.Regex
import CHeader.Proofs.Stripping

/-!
# The pattern of comments and literals

Comments are removed by a substitution for one pattern, which matches comments and literals alike.
A line comment and a block comment are as short as possible, a literal is as long as possible, and
a search that comes to nothing goes on one character later.  The scanner reads the same tokens
without going back.  Both are characterized by rules for the front of a text, of which exactly one
applies, so the rules leave no other way to remove comments.
-/

namespace CHeader
namespace Source

open Token

/-! ## The pattern -/

/-- A character and the backslash that escapes it, or a character that needs none. -/
def literalUnit (quote : Char) : Regex :=
  .alt (.seq (.text ['\\']) .any) (.one fun c => c ≠ '\\' ∧ c ≠ quote)

/-- A literal behind its opening quote. -/
def literalEnd (quote : Char) : Regex :=
  .seq (.many (literalUnit quote)) (.text [quote])

/-- A line comment, a block comment, or a literal with quotes of either kind. -/
def commentOrLiteral : Regex :=
  .alt (.seq (.text ['/', '/']) (.seq (.few .any) .lineEnd))
    (.alt (.seq (.text ['/', '*']) (.seq (.few .any) (.text ['*', '/'])))
      (.alt (.seq (.text ['\'']) (literalEnd '\'')) (.seq (.text ['"']) (literalEnd '"'))))

/-- What is put in place of a match: nothing for a comment, and a literal for itself. -/
def keptText (found : Match) : Text :=
  if found.text.head? = some '/' then [] else found.text

/-! ## What the pattern matches -/

section Ends

open Regex

variable {α : Type} {before : Option Char}

theorem advances_literalUnit (quote : Char) : (literalUnit quote).matcher.Advances :=
  advances_alt (advances_seq (advances_text (by simp)) advances_any) (advances_one _)

theorem firstThat?_literalUnit_escape (quote c : Char) (text : Text) (goOn : Match → Option α) :
    (literalUnit quote).firstThat? goOn before ('\\' :: c :: text) =
      goOn ⟨['\\', c], [], text⟩ := by
  have refused : ∀ d ∈ ('\\' :: c :: text).head?, decide (d ≠ '\\' ∧ d ≠ quote) = false := by
    simp
  have escape : (Regex.text ['\\']).firstThat? (fun found =>
        any.firstThat? (goOn ∘ found.append) (found.last before) found.rest) before
          ('\\' :: c :: text) = goOn ⟨['\\', c], [], text⟩ :=
    (firstThat?_text_append ['\\'] (c :: text)).trans (firstThat?_one_of_pos rfl)
  rw [literalUnit, firstThat?_alt, firstThat?_seq, escape, firstThat?_one_of_neg refused,
    Option.or_none]

theorem firstThat?_literalUnit_of_ne {quote c : Char} (not_backslash : c ≠ '\\') (text : Text)
    (goOn : Match → Option α) :
    (literalUnit quote).firstThat? goOn before (c :: text) =
      if c = quote then none else goOn ⟨[c], [], text⟩ := by
  have no_escape : Text.dropFront? ['\\'] (c :: text) = none := by
    simp [Text.dropFront?, Ne.symm not_backslash]
  rw [literalUnit, firstThat?_alt, firstThat?_seq, firstThat?_text_of_none no_escape,
    Option.none_or]
  split
  · next same => exact firstThat?_one_of_neg (by simp [same])
  · next different => exact firstThat?_one_of_pos (by simp [not_backslash, different])

variable (outcome : Match → α)

theorem firstThat?_lineEnd (text : Text) :
    (Regex.seq (.few .any) .lineEnd).firstThat? (some ∘ outcome) before text =
      some (outcome ⟨text.takeWhile (· ≠ '\n'), [], text.dropWhile (· ≠ '\n')⟩) := by
  induction text generalizing outcome before with
  | nil =>
      rw [firstThat?_fewAny_nil, firstThat?_lineEnd_of_pos (by simp)]
      rfl
  | cons c text ih =>
      rw [firstThat?_fewAny_cons]
      by_cases newline : c = '\n'
      · rw [firstThat?_lineEnd_of_pos (by simpa using newline)]
        simp [newline, Match.empty]
      · rw [firstThat?_lineEnd_of_neg newline, Option.none_or, Function.comp_assoc, ih]
        simp [newline, Match.append]

theorem firstThat?_blockEnd (text : Text) :
    (Regex.seq (.few .any) (.text ['*', '/'])).firstThat? (some ∘ outcome) before text =
      (blockBody? text).map fun found => outcome ⟨found.1 ++ ['*', '/'], [], found.2⟩ := by
  fun_induction blockBody? text generalizing outcome before with
  | case1 => exact firstThat?_fewAny_nil _
  | case2 rest =>
      have ends : (Regex.text ['*', '/']).firstThat? (some ∘ outcome) before ('*' :: '/' :: rest) =
          some (outcome ⟨['*', '/'], [], rest⟩) := firstThat?_text_append ['*', '/'] rest
      rw [firstThat?_fewAny_cons, ends]
      rfl
  | case3 c text different ih =>
      have absent : Text.dropFront? ['*', '/'] (c :: text) = none := by
        refine Option.eq_none_iff_forall_ne_some.mpr fun rest found => ?_
        obtain ⟨rfl, rfl⟩ := List.cons.inj (Text.eq_append_of_dropFront? found)
        exact different rest rfl rfl
      rw [firstThat?_fewAny_cons, firstThat?_text_of_none absent, Option.none_or,
        Function.comp_assoc, ih, Option.map_map]
      rfl

theorem firstThat?_literalEnd {quote : Char} (opens : isQuote quote = true) (text : Text) :
    (literalEnd quote).firstThat? (some ∘ outcome) before text =
      (literalBody? quote text).map fun found => outcome ⟨found.1 ++ [quote], [], found.2⟩ := by
  have not_backslash := not_backslash_of_isQuote opens
  have advances := advances_literalUnit quote
  fun_induction literalBody? quote text generalizing outcome before with
  | case1 =>
      rw [literalEnd, firstThat?_seq_many advances]
      rfl
  | case2 =>
      have no_quote : Text.dropFront? [quote] ['\\'] = none := by
        simp [Text.dropFront?, not_backslash]
      rw [literalEnd, firstThat?_seq_many advances, firstThat?_text_of_none no_quote]
      rfl
  | case3 c text ih =>
      have no_quote : Text.dropFront? [quote] ('\\' :: c :: text) = none := by
        simp [Text.dropFront?, not_backslash]
      rw [literalEnd, firstThat?_seq_many advances, firstThat?_literalUnit_escape,
        firstThat?_text_of_none no_quote, Option.or_none, Function.comp_assoc, ← literalEnd, ih,
        Option.map_map]
      rfl
  | case4 text _ =>
      have ends : (Regex.text [quote]).firstThat? (some ∘ outcome) before (quote :: text) =
          some (outcome ⟨[quote], [], text⟩) := firstThat?_text_append [quote] text
      rw [literalEnd, firstThat?_seq_many advances, firstThat?_literalUnit_of_ne not_backslash,
        if_pos rfl, ends]
      rfl
  | case5 c text not_escape different ih =>
      have no_quote : Text.dropFront? [quote] (c :: text) = none := by
        simp [Text.dropFront?, Ne.symm different]
      rw [literalEnd, firstThat?_seq_many advances, firstThat?_literalUnit_of_ne not_escape,
        if_neg different, firstThat?_text_of_none no_quote, Option.or_none, Function.comp_assoc,
        ← literalEnd, ih, Option.map_map]
      rfl

end Ends

section Front

open Regex

variable {before : Option Char} {c : Char} {text : Text}

theorem firstThat?_quoted {quote : Char} (opens : isQuote quote = true) :
    (Regex.seq (.text [quote]) (literalEnd quote)).firstThat? some before (quote :: text) =
      (literalBody? quote text).map fun found =>
        ⟨(literal quote found.1).source, [], found.2⟩ :=
  (firstThat?_text_seq [quote] text _).trans (firstThat?_literalEnd _ opens text)

theorem firstThat?_quoted_of_no_literal {quote : Char} (opens : isQuote quote = true)
    (no_literal : isQuote c = true → literalBody? c text = none) :
    (Regex.seq (.text [quote]) (literalEnd quote)).firstThat? some before (c :: text) = none := by
  by_cases same : quote = c
  · subst same
    rw [firstThat?_quoted opens, no_literal opens]
    rfl
  · exact firstThat?_text_seq_of_none (by simp [Text.dropFront?, same]) _

/-- The match that a token is, unless it is a single character. -/
def matchOf? (token : Token) (rest : Text) : Option Match :=
  match token with
  | .plain _ => none
  | token => some ⟨token.source, [], rest⟩

/-- The pattern matches the tokens that the scanner reads, single characters apart. -/
theorem first?_commentOrLiteral {token : Token} {rest : Text} (reads : Reads c text token rest) :
    commentOrLiteral.first? before (c :: text) = matchOf? token rest := by
  have next_eq := reads.next_eq
  rw [first?_eq_firstThat?, commentOrLiteral, firstThat?_alt, firstThat?_alt, firstThat?_alt]
  cases reads with
  | @lineComment body _ one_line ended =>
      have line : (Regex.seq (.text ['/', '/']) (.seq (.few .any) .lineEnd)).firstThat? some before
          ('/' :: '/' :: (body ++ rest)) = _ :=
        (firstThat?_text_seq ['/', '/'] (body ++ rest) _).trans (firstThat?_lineEnd _ _)
      obtain ⟨same_body, same_rest⟩ := Prod.mk.inj next_eq
      rw [line, Option.some_or, Token.lineComment.inj same_body, same_rest]
      rfl
  | @blockComment inner body _ found =>
      have no_line : Text.dropFront? ['/', '/'] ('/' :: '*' :: inner) = none := rfl
      have block : (Regex.seq (.text ['/', '*']) (.seq (.few .any) (.text ['*', '/']))).firstThat?
          some before ('/' :: '*' :: inner) = _ :=
        (firstThat?_text_seq ['/', '*'] inner _).trans (firstThat?_blockEnd _ _)
      rw [firstThat?_text_seq_of_none no_line, block, found]
      rfl
  | literal opens found =>
      have kinds : c = '\'' ∨ c = '"' := by simpa [isQuote] using opens
      have not_slash : '/' ≠ c := by
        rintro rfl
        simp at kinds
      have no_line : Text.dropFront? ['/', '/'] (c :: text) = none := by
        simp [Text.dropFront?, not_slash]
      have no_block : Text.dropFront? ['/', '*'] (c :: text) = none := by
        simp [Text.dropFront?, not_slash]
      rw [firstThat?_text_seq_of_none no_line, firstThat?_text_seq_of_none no_block]
      rcases kinds with rfl | rfl
      · rw [firstThat?_quoted opens, found]
        rfl
      · have no_single : Text.dropFront? ['\''] ('"' :: text) = none := rfl
        rw [firstThat?_text_seq_of_none no_single, firstThat?_quoted opens, found]
        rfl
  | plain no_literal no_line_comment no_block_comment =>
      have no_line : Text.dropFront? ['/', '/'] (c :: text) = none := by
        refine Option.eq_none_iff_forall_ne_some.mpr fun rest found => ?_
        obtain ⟨slash, rfl⟩ := List.cons.inj (Text.eq_append_of_dropFront? found)
        exact no_line_comment slash rfl
      have no_block :
          (Regex.seq (.text ['/', '*']) (.seq (.few .any) (.text ['*', '/']))).firstThat? some
            before (c :: text) = none := by
        cases found : Text.dropFront? ['/', '*'] (c :: text) with
        | none => exact firstThat?_text_seq_of_none found _
        | some inner =>
            obtain ⟨rfl, rfl⟩ := List.cons.inj (Text.eq_append_of_dropFront? found)
            refine (firstThat?_text_seq ['/', '*'] inner _).trans ?_
            rw [firstThat?_blockEnd, no_block_comment inner rfl rfl]
            rfl
      rw [firstThat?_text_seq_of_none no_line, no_block,
        firstThat?_quoted_of_no_literal rfl no_literal,
        firstThat?_quoted_of_no_literal rfl no_literal]
      rfl

end Front

theorem keptText_literal {quote : Char} (opens : isQuote quote = true) (body rest : Text) :
    keptText ⟨(literal quote body).source, [], rest⟩ = (literal quote body).source := by
  have not_slash : quote ≠ '/' := by
    rintro rfl
    simp [isQuote] at opens
  simp [keptText, source, not_slash]

/-- The scanner does what the substitution for the pattern does. -/
theorem flatMap_pieces (before : Option Char) (text : Text) :
    (commentOrLiteral.pieces before text).flatMap (Sum.elim ([·]) keptText) =
      stripComments text := by
  induction text using scan_induction generalizing before with
  | nil => simp
  | token c text token rest reads ih =>
      have matched : commentOrLiteral.first? before (c :: text) = _ :=
        first?_commentOrLiteral reads
      have shorter := reads.length_le
      cases reads with
      | lineComment one_line ended =>
          rw [Regex.pieces_of_some matched shorter, List.flatMap_cons, ih,
            stripComments_comment (.lineComment one_line ended) rfl]
          rfl
      | blockComment found =>
          rw [Regex.pieces_of_some matched shorter, List.flatMap_cons, ih,
            stripComments_comment (.blockComment found) rfl]
          rfl
      | @literal _ _ body _ opens found =>
          rw [Regex.pieces_of_some matched shorter, List.flatMap_cons, ih,
            stripComments_kept (.literal opens found) rfl]
          exact congrArg (· ++ stripComments rest) (keptText_literal opens body rest)
      | plain no_literal no_line_comment no_block_comment =>
          rw [Regex.pieces_of_none matched, List.flatMap_cons, ih,
            stripComments_kept (.plain no_literal no_line_comment no_block_comment) rfl]
          rfl

/-! ## The rules -/

/-- The inner text of a literal.  A backslash and the character behind it form a pair, and outside
of pairs there is no quote. -/
inductive IsLiteralBody (quote : Char) : Text → Prop where
  | nil : IsLiteralBody quote []
  | pair (c : Char) {body : Text} (behind : IsLiteralBody quote body) :
      IsLiteralBody quote ('\\' :: c :: body)
  | char {c : Char} {body : Text} (not_backslash : c ≠ '\\') (not_quote : c ≠ quote)
      (behind : IsLiteralBody quote body) : IsLiteralBody quote (c :: body)

/-- Comments and literals at the front of a text, and the text behind them. -/
inductive IsDelimited : Text → Token → Text → Prop where
  /-- A line comment is free of newlines and stands before one or at the end. -/
  | lineComment {body rest : Text} (one_line : '\n' ∉ body)
      (ended : rest = [] ∨ rest.head? = some '\n') :
      IsDelimited ('/' :: '/' :: (body ++ rest)) (.lineComment body) rest
  /-- A block comment goes up to the first end behind its start. -/
  | blockComment {body rest : Text} (no_end : ¬ ['*', '/'] <:+: body) :
      IsDelimited ('/' :: '*' :: (body ++ '*' :: '/' :: rest)) (.blockComment body) rest
  /-- A literal goes up to the first quote that is not in a pair. -/
  | literal {quote : Char} {body rest : Text} (opens : quote = '\'' ∨ quote = '"')
      (inside : IsLiteralBody quote body) :
      IsDelimited (quote :: (body ++ quote :: rest)) (.literal quote body) rest

/-- The token at the front of a text that is not empty, and the text behind it.  A character is a
token if no comment and no literal begins with it. -/
inductive IsFront : Text → Token → Text → Prop where
  | delimited {text rest : Text} {token : Token} (begins : IsDelimited text token rest) :
      IsFront text token rest
  | plain {c : Char} {text : Text}
      (alone : ∀ token rest, ¬ IsDelimited (c :: text) token rest) :
      IsFront (c :: text) (.plain c) text

theorem literalBody?_append {quote : Char} (not_backslash : quote ≠ '\\') {body : Text}
    (inside : IsLiteralBody quote body) (rest : Text) :
    literalBody? quote (body ++ quote :: rest) = some (body, rest) := by
  induction inside with
  | nil => simp [literalBody?]
  | pair c _ ih => simp [literalBody?, ih]
  | char not_escape not_quote _ ih => simp [literalBody?, not_quote, ih]

theorem isLiteralBody_of_literalBody? {quote : Char} {text body rest : Text}
    (found : literalBody? quote text = some (body, rest)) : IsLiteralBody quote body := by
  fun_induction literalBody? quote text generalizing body with
  | case1 => simp at found
  | case2 => simp at found
  | case3 c text ih =>
      obtain ⟨⟨body', rest'⟩, found', same⟩ := Option.map_eq_some_iff.mp found
      obtain ⟨rfl, rfl⟩ := Prod.mk.inj same
      exact .pair c (ih found')
  | case4 text _ =>
      obtain ⟨rfl, rfl⟩ := Prod.mk.inj (Option.some.inj found)
      exact .nil
  | case5 c text not_escape not_quote ih =>
      obtain ⟨⟨body', rest'⟩, found', same⟩ := Option.map_eq_some_iff.mp found
      obtain ⟨rfl, rfl⟩ := Prod.mk.inj same
      exact .char not_escape not_quote (ih found')

/-- Comments and literals are what the scanner does not read as a single character. -/
theorem isDelimited_cons_iff {c : Char} {text rest : Text} {token : Token} :
    IsDelimited (c :: text) token rest ↔ Reads c text token rest ∧ token ≠ .plain c := by
  constructor
  · intro begins
    cases begins with
    | lineComment one_line ended =>
        refine ⟨.lineComment one_line ?_, by simp⟩
        rcases ended with rfl | newline
        · simp
        · simp [newline]
    | blockComment no_end => exact ⟨.blockComment (blockBody?_append no_end rest), by simp⟩
    | literal opens inside =>
        have quote : isQuote c = true := by simpa [isQuote] using opens
        have found := literalBody?_append (not_backslash_of_isQuote quote) inside rest
        exact ⟨.literal quote found, by simp⟩
  · rintro ⟨reads, delimited⟩
    cases reads with
    | lineComment one_line ended =>
        refine .lineComment one_line ?_
        cases rest with
        | nil => exact .inl rfl
        | cons d rest => exact .inr (congrArg some (ended d rfl))
    | blockComment found =>
        rw [blockBody?_source found]
        exact .blockComment (not_infix_of_blockBody? found)
    | literal opens found =>
        rw [literalBody?_source found]
        exact .literal (by simpa [isQuote] using opens) (isLiteralBody_of_literalBody? found)
    | plain => exact absurd rfl delimited

/-- The rules are those by which the scanner reads. -/
theorem isFront_cons_iff {c : Char} {text rest : Text} {token : Token} :
    IsFront (c :: text) token rest ↔ Reads c text token rest := by
  constructor
  · intro front
    cases front with
    | delimited begins => exact (isDelimited_cons_iff.mp begins).1
    | plain alone =>
        obtain ⟨token, rest, reads⟩ := exists_reads c text
        by_cases single : token = .plain c
        · subst single
          cases reads with
          | plain no_literal no_line_comment no_block_comment =>
              exact .plain no_literal no_line_comment no_block_comment
        · exact absurd (isDelimited_cons_iff.mpr ⟨reads, single⟩) (alone token rest)
  · intro reads
    by_cases single : token = .plain c
    · subst single
      have alone (other : Token) (behind : Text) : ¬ IsDelimited (c :: text) other behind := by
        intro begins
        obtain ⟨reads', delimited⟩ := isDelimited_cons_iff.mp begins
        exact delimited (Prod.mk.inj (reads'.next_eq.symm.trans reads.next_eq)).1
      cases reads with
      | plain => exact .plain alone
    · exact .delimited (isDelimited_cons_iff.mpr ⟨reads, single⟩)

/-- What a token leaves of itself when comments are removed. -/
def keptOf (token : Token) : Text :=
  if token.isComment then [] else token.source

theorem stripComments_of_reads {c : Char} {text rest : Text} {token : Token}
    (reads : Reads c text token rest) :
    stripComments (c :: text) = keptOf token ++ stripComments rest := by
  cases kind : token.isComment with
  | true => simp [keptOf, kind, stripComments_comment reads kind]
  | false => simp [keptOf, kind, stripComments_kept reads kind]

/-- Removing comments is a substitution for the pattern of comments and literals.  Each text that is
not empty has exactly one token at its front, and the only function that passes over each token and
leaves nothing of a comment and all of any other token is the one that removes comments. -/
theorem stripComments_unique :
    (∀ text, stripComments text = commentOrLiteral.replaceAll keptText text) ∧
      (∀ c text, ∃! front : Token × Text, IsFront (c :: text) front.1 front.2) ∧
      ∀ strip : Text → Text, strip = stripComments ↔
        strip [] = [] ∧
          ∀ text token rest, IsFront text token rest → strip text = keptOf token ++ strip rest := by
  refine ⟨fun text => (flatMap_pieces none text).symm, fun c text => ?_, fun strip => ?_⟩
  · obtain ⟨token, rest, reads⟩ := exists_reads c text
    refine ⟨(token, rest), isFront_cons_iff.mpr reads, ?_⟩
    rintro ⟨other, behind⟩ front
    exact (isFront_cons_iff.mp front).next_eq.symm.trans reads.next_eq
  · constructor
    · rintro rfl
      refine ⟨stripComments_nil, fun text token rest front => ?_⟩
      cases text with
      | nil =>
          cases front with
          | delimited begins => cases begins
      | cons c text => exact stripComments_of_reads (isFront_cons_iff.mp front)
    · rintro ⟨nil, step⟩
      funext text
      induction text using scan_induction with
      | nil => rw [nil, stripComments_nil]
      | token c text token rest reads ih =>
          rw [step _ token rest (isFront_cons_iff.mpr reads), ih, stripComments_of_reads reads]

end Source
end CHeader
