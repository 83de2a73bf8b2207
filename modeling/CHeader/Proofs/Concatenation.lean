import CHeader.Header.Parse
import CHeader.Proofs.Blocks
import CHeader.Proofs.NormalForm

/-!
# Headers one behind the other

A header that ends outside of literals, comments and bodies can be followed by another one: what is
found in both together is what is found in the first and then in the second.
-/

namespace CHeader

/-! ## Lines -/

theorem Text.ofLines_append {front back : List Text} (front_nonempty : front ≠ [])
    (back_nonempty : back ≠ []) :
    ofLines (front ++ back) = ofLines front ++ '\n' :: ofLines back := by
  have joined : broken (front ++ back) = broken front ++ broken back := List.flatMap_append
  rw [broken_eq_cons_ofLines front_nonempty, broken_eq_cons_ofLines back_nonempty,
    broken_eq_cons_ofLines (List.append_ne_nil_of_left_ne_nil front_nonempty back)] at joined
  exact (List.cons.inj joined).2

namespace Source

open Token

theorem stripComments_append {text back : Text} (complete : IsComplete text)
    (follows : CanFollow text back) :
    stripComments (text ++ back) = stripComments text ++ stripComments back := by
  simp [stripComments, scan_append complete follows]

theorem stripComments_append_newline {text : Text} (complete : IsComplete text) (later : Text) :
    stripComments (text ++ '\n' :: later) = stripComments text ++ '\n' :: stripComments later := by
  rw [stripComments_append complete (canFollow_newline text later), stripComments_newline]

theorem normalLines_append_newline {text : Text} (complete : IsComplete text) (later : Text) :
    normalLines (text ++ '\n' :: later) = normalLines text ++ normalLines later := by
  rw [normalLines_eq, stripComments_append_newline complete, List.splitOn_append_cons_self,
    tidyLines_append, ← normalLines_eq, ← normalLines_eq]

end Source

/-! ## Declarations -/

theorem Block.ofHeader_append_newline (kind : BlockKind) {text : Text}
    (complete : Token.IsComplete text) (closed : BracesClosed (Source.normalize text))
    (later : Text) :
    ofHeader kind (text ++ '\n' :: later) = ofHeader kind text ++ ofHeader kind later := by
  simp only [ofHeader, Source.normalize, Source.normalLines_append_newline complete] at closed ⊢
  by_cases no_front : Source.normalLines text = []
  · simp [no_front, Text.ofLines]
  · by_cases no_back : Source.normalLines later = []
    · simp [no_back, Text.ofLines]
    · rw [Text.ofLines_append no_front no_back, search_append_newline kind closed]

theorem Define.ofHeader_append_newline {text : Text} (complete : Token.IsComplete text)
    (later : Text) : ofHeader (text ++ '\n' :: later) = ofHeader text ++ ofHeader later := by
  rw [ofHeader, lines, Source.normalLines_append_newline complete, List.filterMap_append,
    List.filter_append]
  rfl

namespace Header

theorem blocksOf_append_newline (kind : BlockKind) (filter : TypeFilter) {text : Text}
    (complete : Token.IsComplete text) (closed : BracesClosed (Source.normalize text))
    (later : Text) :
    blocksOf kind filter (text ++ '\n' :: later) =
      blocksOf kind filter text ++ blocksOf kind filter later := by
  rw [blocksOf, Block.ofHeader_append_newline kind complete closed, List.filter_append]
  rfl

theorem enumsOf_append_newline (filter : TypeFilter) {text : Text}
    (complete : Token.IsComplete text) (closed : BracesClosed (Source.normalize text))
    (later : Text) :
    enumsOf filter (text ++ '\n' :: later) = do
      let enums ← enumsOf filter text
      let others ← enumsOf filter later
      return enums ++ others := by
  rw [enumsOf, blocksOf_append_newline .enum filter complete closed, List.mapM_append]
  rfl

/-- A header that ends outside of literals, comments and bodies is parsed before what follows. -/
theorem parse_append_newline (filter : TypeFilter) (source other : Text) {text : Text}
    (complete : Token.IsComplete text) (closed : BracesClosed (Source.normalize text))
    (later : Text) :
    parse filter source (text ++ '\n' :: later) = do
      let header ← parse filter source text
      let next ← parse filter other later
      return header.merge next := by
  simp only [parse, enumsOf_append_newline filter complete closed, structsOf,
    blocksOf_append_newline .struct filter complete closed,
    Define.ofHeader_append_newline complete]
  cases enumsOf filter text with
  | error cause => rfl
  | ok enums =>
      cases enumsOf filter later with
      | error cause => rfl
      | ok others => rfl

end Header

/-! ## Conditions on the first header -/

theorem bracesClosed_of_last {text : Text}
    (last : ∀ front back, text = front ++ '{' :: back → '{' ∉ back → '}' ∈ back) :
    BracesClosed text := by
  intro front back split
  by_cases another : '{' ∈ back
  · obtain ⟨behind, before, reversed, fresh⟩ :=
      List.eq_append_cons_of_mem (List.mem_reverse.mpr another)
    have inner : back = before.reverse ++ '{' :: behind.reverse := by
      simpa using congrArg List.reverse reversed
    have closes := last (front ++ '{' :: before.reverse) behind.reverse (by simp [split, inner])
      (by simpa using fresh)
    rw [inner]
    exact List.mem_append_right _ (List.mem_cons_of_mem _ closes)
  · exact last front back split another

/-- Parsing two headers, one behind the other, is parsing each and merging the outcomes.  The first
header has to end outside of literals and comments, and the last opening brace of its normal form,
if there is one, needs a closing brace behind it. -/
theorem Header.parse_join {first second : Text} (complete : Token.IsComplete first)
    (last_closed : ∀ front back, Source.normalize first = front ++ '{' :: back → '{' ∉ back →
      '}' ∈ back) (filter : TypeFilter) (source other : Text) :
    parse filter source (first ++ '\n' :: second) =
      match parse filter source first, parse filter other second with
      | .error cause, _ => .error cause
      | .ok _, .error cause => .error cause
      | .ok header, .ok next => .ok (header.merge next) := by
  rw [parse_append_newline filter source other complete (bracesClosed_of_last last_closed)]
  cases parse filter source first with
  | error cause => rfl
  | ok header =>
      cases parse filter other second with
      | error cause => rfl
      | ok next => rfl

/-- A header with an enum, with a comment that holds a closing brace and with a line comment that
holds a quote. -/
def commentedEnum : Text :=
  r"enum e { A, /* } */ B }; // '".toList

/-- A macro behind that header uses the name of the enum, and both are found in the joined text. -/
theorem Header.parse_join_enum_define :
    (parse {} [] (commentedEnum ++ '\n' :: "#define N e".toList) =
      match parse {} [] commentedEnum, parse {} [] "#define N e".toList with
      | .error cause, _ => .error cause
      | .ok _, .error cause => .error cause
      | .ok header, .ok next => .ok (header.merge next)) ∧
    parse {} [] (commentedEnum ++ '\n' :: "#define N e".toList) =
      .ok ⟨[], [], [⟨"e".toList, [⟨"A".toList, .int 0⟩, ⟨"B".toList, .int 1⟩]⟩],
        [⟨"N".toList, "e".toList⟩]⟩ := by
  have tokens : Token.scan commentedEnum =
      r"enum e { A, ".toList.map .plain ++ .blockComment r" } ".toList ::
        (r" B }; ".toList.map .plain ++ [.lineComment " '".toList]) := by
    unfold commentedEnum
    simp [Token.scan_cons, Token.scan_nil, Token.next, Token.blockBody?, Token.isQuote]
  have complete : Token.IsComplete commentedEnum := by
    apply Token.isComplete_of_plain
    rw [tokens]
    simp [Token.IsOrdinary, Token.isQuote]
  have normal : Source.normalize commentedEnum =
      r"enum e { A,  B ".toList ++ '}' :: ";".toList := by
    rw [Source.normalize, Source.normalLines, Source.stripComments, tokens]
    rfl
  refine ⟨parse_join complete ?_ {} [] [], by decide +kernel⟩
  intro front back split _
  exact bracesClosed_append (by decide) r"enum e { A,  B ".toList front back (normal ▸ split)

end CHeader
