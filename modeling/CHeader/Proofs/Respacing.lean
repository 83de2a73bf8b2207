import CHeader.Proofs.Lines
import CHeader.Proofs.Stripping

/-!
# Texts that differ in their line breaks

Two texts are respacings of each other if they differ only in tabs that stand for spaces, in the
blanks that lead to the end of a line, in blank lines, and in the blanks at the end of the text.
Stripping comments keeps this relation: a blank may follow a backslash or stand in a comment or in
a literal, but it never opens or closes one.
-/

namespace CHeader
namespace Source

open Text Token

/-- Equality up to tabs, line breaks, and blanks at the end. -/
inductive Respaced : Text → Text → Prop where
  /-- Both texts have come to their trailing blanks. -/
  | blank {left right : Text} (left_blank : isBlankText left = true)
      (right_blank : isBlankText right = true) : Respaced left right
  /-- A character, or a tab and a space. -/
  | char {c d : Char} {left right : Text} (same : untab c = untab d)
      (behind : Respaced left right) : Respaced (c :: left) (d :: right)
  /-- Blanks up to the end of a line. -/
  | lineBreak {gap gap' left right : Text} (gap_blank : isBlankText gap = true)
      (gap_blank' : isBlankText gap' = true) (behind : Respaced left right) :
      Respaced (gap ++ '\n' :: left) (gap' ++ '\n' :: right)

/-- Fronts that leave respaced texts respaced. -/
def RespacedFronts (front front' : Text) : Prop :=
  ∀ left right, Respaced left right → Respaced (front ++ left) (front' ++ right)

/-! ## Characters -/

theorem eq_of_untab_eq {c d : Char} (same : untab c = untab d) (not_blank : isBlank c = false) :
    d = c := by
  have not_space : ¬ c = ' ' := by rintro rfl; simp at not_blank
  have not_tab : ¬ c = '\t' := by rintro rfl; simp at not_blank
  simp only [untab, not_tab, if_false] at same
  split at same
  · exact absurd same not_space
  · exact same.symm

theorem eq_iff_of_untab_eq {c d e : Char} (same : untab c = untab d)
    (not_blank : isBlank e = false) :
    c = e ↔ d = e := by
  constructor
  · rintro rfl
    exact eq_of_untab_eq same not_blank
  · rintro rfl
    exact eq_of_untab_eq same.symm not_blank

theorem newline_iff_of_untab_eq {c d : Char} (same : untab c = untab d) : c = '\n' ↔ d = '\n' := by
  rw [← untab_eq_newline_iff, same, untab_eq_newline_iff]

theorem not_blank_of_isQuote {c : Char} (quote : isQuote c = true) : isBlank c = false := by
  simp only [isQuote, Bool.or_eq_true, beq_iff_eq] at quote
  rcases quote with rfl | rfl <;> decide

/-- A blank is read on its own. -/
theorem reads_of_isBlank {c : Char} (blank : isBlank c = true) (text : Text) :
    Reads c text (plain c) text := by
  have not_slash : c ≠ '/' := by rintro rfl; simp at blank
  refine .plain (fun quote => ?_) (fun slash => absurd slash not_slash)
    (fun _ slash => absurd slash not_slash)
  simp [not_blank_of_isQuote quote] at blank

namespace Respaced

theorem refl (text : Text) : Respaced text text := by
  induction text with
  | nil => exact .blank rfl rfl
  | cons c text ih => exact .char rfl ih

theorem append_left {left right : Text} (behind : Respaced left right) (front : Text) :
    Respaced (front ++ left) (front ++ right) := by
  induction front with
  | nil => exact behind
  | cons c front ih => exact .char rfl ih

theorem symm {left right : Text} (respaced : Respaced left right) : Respaced right left := by
  induction respaced with
  | blank left_blank right_blank => exact .blank right_blank left_blank
  | char same _ ih => exact .char same.symm ih
  | lineBreak gap_blank gap_blank' _ ih => exact .lineBreak gap_blank' gap_blank ih

/-- A character that is not blank has itself as its counterpart. -/
theorem of_cons {c : Char} {left right : Text} (respaced : Respaced (c :: left) right)
    (not_blank : isBlank c = false) : ∃ right', right = c :: right' ∧ Respaced left right' := by
  generalize whole : c :: left = text at respaced
  cases respaced with
  | blank left_blank right_blank => simp [← whole, not_blank] at left_blank
  | @char d e _ right' same behind =>
      obtain ⟨rfl, rfl⟩ := List.cons.inj whole
      exact ⟨right', by rw [eq_of_untab_eq same not_blank], behind⟩
  | @lineBreak gap =>
      cases gap with
      | nil =>
          obtain ⟨rfl, -⟩ := List.cons.inj whole
          simp at not_blank
      | cons d gap =>
          obtain ⟨rfl, -⟩ := List.cons.inj whole
          simp_all

theorem head?_eq_iff {left right : Text} (respaced : Respaced left right) {c : Char}
    (not_blank : isBlank c = false) : left.head? = some c ↔ right.head? = some c := by
  constructor
  · intro first
    obtain ⟨left', rfl⟩ := List.head?_eq_some_iff.mp first
    obtain ⟨right', rfl, -⟩ := respaced.of_cons not_blank
    rfl
  · intro first
    obtain ⟨right', rfl⟩ := List.head?_eq_some_iff.mp first
    obtain ⟨left', rfl, -⟩ := respaced.symm.of_cons not_blank
    rfl

end Respaced

/-! ## Ends of literals and comments -/

/-- Blanks neither end a literal nor escape what follows. -/
theorem behindQuote?_blank_append {quote c : Char} (opens : isQuote quote = true) {gap : Text}
    (gap_blank : isBlankText gap = true) (blank : isBlank c = true) (escaped : Bool) (text : Text) :
    behindQuote? quote escaped (gap ++ c :: text) = behindQuote? quote false text := by
  have ordinary {d : Char} (blank_d : isBlank d = true) : d ≠ '\\' ∧ d ≠ quote := by
    constructor
    · rintro rfl
      simp at blank_d
    · rintro rfl
      simp [not_blank_of_isQuote opens] at blank_d
  induction gap generalizing escaped with
  | nil => exact behindQuote?_cons_of_ne (ordinary blank).1 (ordinary blank).2 escaped text
  | cons d gap ih =>
      obtain ⟨blank_d, gap_blank⟩ := (isBlankText_cons d gap).mp gap_blank
      rw [List.cons_append, behindQuote?_cons_of_ne (ordinary blank_d).1 (ordinary blank_d).2]
      exact ih gap_blank false

theorem behindQuote?_blank {quote : Char} (opens : isQuote quote = true) {text : Text}
    (blank : isBlankText text = true) (escaped : Bool) :
    behindQuote? quote escaped text = none := by
  cases text using List.reverseRecOn with
  | nil => rfl
  | append_singleton text c =>
      obtain ⟨gap_blank, blank_c⟩ := (isBlankText_append text [c]).mp blank
      rw [behindQuote?_blank_append opens gap_blank (by simpa using blank_c)]
      rfl

/-- Two ends that lie behind respaced fronts and in front of respaced texts. -/
def RespacedEnds (left right left_rest right_rest : Text) : Prop :=
  Respaced left_rest right_rest ∧ ∃ front front', RespacedFronts front front' ∧
    left = front ++ left_rest ∧ right = front' ++ right_rest

namespace RespacedEnds

theorem char {c d : Char} {left right left_rest right_rest : Text} (same : untab c = untab d)
    (ends : RespacedEnds left right left_rest right_rest) :
    RespacedEnds (c :: left) (d :: right) left_rest right_rest := by
  obtain ⟨rests, front, front', fronts, rfl, rfl⟩ := ends
  exact ⟨rests, c :: front, d :: front', fun x y behind => .char same (fronts x y behind), rfl, rfl⟩

theorem lineBreak {gap gap' left right left_rest right_rest : Text}
    (gap_blank : isBlankText gap = true) (gap_blank' : isBlankText gap' = true)
    (ends : RespacedEnds left right left_rest right_rest) :
    RespacedEnds (gap ++ '\n' :: left) (gap' ++ '\n' :: right) left_rest right_rest := by
  obtain ⟨rests, front, front', fronts, rfl, rfl⟩ := ends
  refine ⟨rests, gap ++ '\n' :: front, gap' ++ '\n' :: front', fun x y behind => ?_, ?_, ?_⟩
  · simpa using Respaced.lineBreak gap_blank gap_blank' (fronts x y behind)
  · simp
  · simp

end RespacedEnds

private theorem rel_imp {α β : Type} {r s : α → β → Prop} (imp : ∀ a b, r a b → s a b)
    {a : Option α} {b : Option β} (related : Option.Rel r a b) : Option.Rel s a b := by
  cases related with
  | some related => exact .some (imp _ _ related)
  | none => exact .none

/-- Respaced texts end a literal at respaced places. -/
theorem Respaced.behindQuote? {left right : Text} (respaced : Respaced left right) {quote : Char}
    (opens : isQuote quote = true) (escaped : Bool) :
    Option.Rel (RespacedEnds left right) (behindQuote? quote escaped left)
      (behindQuote? quote escaped right) := by
  induction respaced generalizing escaped with
  | blank left_blank right_blank =>
      rw [behindQuote?_blank opens left_blank, behindQuote?_blank opens right_blank]
      exact .none
  | @char c d left right same behind ih =>
      have continued (flag : Bool) :=
        rel_imp (fun _ _ => RespacedEnds.char same) (ih flag)
      have backslash := eq_iff_of_untab_eq same isBlank_backslash
      have ends := eq_iff_of_untab_eq same (not_blank_of_isQuote opens)
      cases escaped with
      | true => exact continued false
      | false =>
          simp only [Token.behindQuote?, ← backslash, ← ends]
          split
          · exact continued true
          · split
            · exact .some ⟨behind, [c], [d], fun _ _ => .char same, rfl, rfl⟩
            · exact continued false
  | lineBreak gap_blank gap_blank' behind ih =>
      rw [behindQuote?_blank_append opens gap_blank isBlank_newline,
        behindQuote?_blank_append opens gap_blank' isBlank_newline]
      exact rel_imp (fun _ _ => RespacedEnds.lineBreak gap_blank gap_blank') (ih false)

/-- The end of a literal, given by the texts around its closing quotes. -/
theorem Respaced.literalBody? {left right : Text} (respaced : Respaced left right) {quote : Char}
    (opens : isQuote quote = true) :
    Option.Rel (fun found found' => Respaced found.2 found'.2 ∧
        RespacedFronts (found.1 ++ [quote]) (found'.1 ++ [quote]))
      (literalBody? quote left) (literalBody? quote right) := by
  have ends := respaced.behindQuote? opens false
  rw [← literalBody?_map_snd, ← literalBody?_map_snd] at ends
  cases found : Token.literalBody? quote left with
  | none =>
      cases found' : Token.literalBody? quote right with
      | none => exact .none
      | some => simp [found, found'] at ends
  | some pair =>
      cases found' : Token.literalBody? quote right with
      | none => simp [found, found'] at ends
      | some pair' =>
          rw [found, found', Option.map_some, Option.map_some, Option.rel_some_some] at ends
          obtain ⟨rests, front, front', fronts, left_eq, right_eq⟩ := ends
          rw [literalBody?_source found, ← List.singleton_append, ← List.append_assoc] at left_eq
          rw [literalBody?_source found', ← List.singleton_append, ← List.append_assoc] at right_eq
          refine .some ⟨rests, ?_⟩
          rwa [List.append_cancel_right left_eq, List.append_cancel_right right_eq]

/-- A character that is no star, or has no slash behind it, does not end a comment. -/
theorem blockBody?_cons_map_snd {c : Char} {text : Text}
    (keeps_open : ¬ (c = '*' ∧ text.head? = some '/')) :
    (blockBody? (c :: text)).map Prod.snd = (blockBody? text).map Prod.snd := by
  rw [Token.blockBody?]
  · simp [Function.comp_def]
  · rintro rest rfl rfl
    exact keeps_open ⟨rfl, rfl⟩

theorem blockBody?_blank_append {gap : Text} (gap_blank : isBlankText gap = true) (text : Text) :
    (blockBody? (gap ++ text)).map Prod.snd = (blockBody? text).map Prod.snd := by
  induction gap with
  | nil => rfl
  | cons c gap ih =>
      obtain ⟨blank, gap_blank⟩ := (isBlankText_cons c gap).mp gap_blank
      rw [List.cons_append, blockBody?_cons_map_snd, ih gap_blank]
      rintro ⟨rfl, -⟩
      simp at blank

/-- Respaced texts end a block comment at respaced places. -/
theorem Respaced.blockBody? {left right : Text} (respaced : Respaced left right) :
    Option.Rel Respaced ((blockBody? left).map Prod.snd) ((blockBody? right).map Prod.snd) := by
  induction respaced with
  | @blank left right left_blank right_blank =>
      have left_open := blockBody?_blank_append left_blank []
      have right_open := blockBody?_blank_append right_blank []
      rw [List.append_nil] at left_open right_open
      rw [left_open, right_open]
      exact .none
  | @char c d left right same behind ih =>
      have star := eq_iff_of_untab_eq same isBlank_star
      have slash := behind.head?_eq_iff isBlank_slash
      by_cases ends : c = '*' ∧ left.head? = some '/'
      · obtain ⟨rfl, first⟩ := ends
        obtain rfl := star.mp rfl
        obtain ⟨left', rfl⟩ := List.head?_eq_some_iff.mp first
        obtain ⟨right', rfl, rests⟩ := behind.of_cons isBlank_slash
        exact .some rests
      · rw [blockBody?_cons_map_snd ends, blockBody?_cons_map_snd]
        · exact ih
        · rwa [← star, ← slash]
  | @lineBreak gap gap' left right gap_blank gap_blank' behind ih =>
      have no_star : ¬ ('\n' = '*' ∧ left.head? = some '/') := by simp
      have no_star' : ¬ ('\n' = '*' ∧ right.head? = some '/') := by simp
      rw [blockBody?_blank_append gap_blank, blockBody?_blank_append gap_blank',
        blockBody?_cons_map_snd no_star, blockBody?_cons_map_snd no_star']
      exact ih

/-- The rest of a line that ends in a break, or in nothing but blanks. -/
theorem Respaced.dropLine {left right : Text} (respaced : Respaced left right) :
    Respaced (left.dropWhile (· ≠ '\n')) (right.dropWhile (· ≠ '\n')) := by
  have dropped {gap : Text} (gap_blank : isBlankText gap = true) (text : Text) :
      ∃ gap', isBlankText gap' = true ∧
        (gap ++ '\n' :: text).dropWhile (· ≠ '\n') = gap' ++ '\n' :: text := by
    induction gap with
    | nil => exact ⟨[], rfl, by simp⟩
    | cons c gap ih =>
        by_cases newline : c = '\n'
        · exact ⟨c :: gap, gap_blank, by simp [newline]⟩
        · obtain ⟨gap', gap_blank', same⟩ := ih ((isBlankText_cons c gap).mp gap_blank).2
          exact ⟨gap', gap_blank', by simpa [newline] using same⟩
  induction respaced with
  | blank left_blank right_blank =>
      refine .blank ?_ ?_
      · exact List.all_eq_true.mpr fun c member =>
          isBlank_of_mem left_blank ((List.dropWhile_sublist _).mem member)
      · exact List.all_eq_true.mpr fun c member =>
          isBlank_of_mem right_blank ((List.dropWhile_sublist _).mem member)
  | @char c d left right same behind ih =>
      have newline := newline_iff_of_untab_eq same
      by_cases stops : c = '\n'
      · obtain rfl := newline.mp stops
        subst stops
        simpa using Respaced.char rfl behind
      · have stops' : d ≠ '\n' := fun hit => stops (newline.mpr hit)
        simpa [stops, stops'] using ih
  | @lineBreak gap gap' left right gap_blank gap_blank' behind ih =>
      obtain ⟨rest, rest_blank, same⟩ := dropped gap_blank left
      obtain ⟨rest', rest_blank', same'⟩ := dropped gap_blank' right
      rw [same, same']
      exact .lineBreak rest_blank rest_blank' behind

/-! ## Stripping -/

theorem stripComments_blank_append {gap : Text} (gap_blank : isBlankText gap = true)
    (text : Text) : stripComments (gap ++ text) = gap ++ stripComments text := by
  induction gap with
  | nil => rfl
  | cons c gap ih =>
      obtain ⟨blank, gap_blank⟩ := (isBlankText_cons c gap).mp gap_blank
      rw [List.cons_append, stripComments_kept (reads_of_isBlank blank _) rfl, ih gap_blank]
      rfl

theorem stripComments_newline (text : Text) :
    stripComments ('\n' :: text) = '\n' :: stripComments text :=
  stripComments_kept (reads_of_isBlank isBlank_newline text) rfl

theorem stripComments_lineComment (text : Text) :
    stripComments ('/' :: '/' :: text) = stripComments (text.dropWhile (· ≠ '\n')) := by
  have reads : Reads '/' ('/' :: text) _ _ := reads_next '/' ('/' :: text)
  exact stripComments_comment reads rfl

/-- A character that is read on its own is so in a respaced text. -/
theorem Respaced.reads_plain {c d : Char} {left right : Text} (behind : Respaced left right)
    (same : untab c = untab d) (reads : Reads c left (plain c) left) :
    Reads d right (plain d) right := by
  cases reads with
  | plain no_literal no_line_comment no_block_comment =>
      refine .plain ?_ ?_ ?_
      · intro opens
        obtain rfl := eq_of_untab_eq same.symm (not_blank_of_isQuote opens)
        have ends := behind.literalBody? opens
        rw [no_literal opens] at ends
        cases found : Token.literalBody? c right with
        | none => rfl
        | some => simp [found] at ends
      · rintro rfl
        obtain rfl := eq_of_untab_eq same.symm isBlank_slash
        rw [Ne, ← behind.head?_eq_iff isBlank_slash]
        exact no_line_comment rfl
      · rintro inner rfl rfl
        obtain rfl := eq_of_untab_eq same.symm isBlank_slash
        obtain ⟨inner', rfl, rests⟩ := behind.symm.of_cons isBlank_star
        have ends := rests.symm.blockBody?
        rw [no_block_comment inner' rfl rfl] at ends
        cases found : Token.blockBody? inner with
        | none => rfl
        | some => simp [found] at ends

/-- Stripping respects respacing from the front of a character on, if it does so behind it. -/
theorem Respaced.stripComments_char {c d : Char} {left right : Text} (same : untab c = untab d)
    (behind : Respaced left right)
    (ih : ∀ later later', later.length ≤ left.length → Respaced later later' →
      Respaced (stripComments later) (stripComments later')) :
    Respaced (stripComments (c :: left)) (stripComments (d :: right)) := by
  obtain ⟨token, rest, reads⟩ := exists_reads c left
  have shorter := reads.length_le
  cases reads with
  | @lineComment body =>
      obtain rfl := eq_of_untab_eq same isBlank_slash
      obtain ⟨right, rfl, inside⟩ := behind.of_cons isBlank_slash
      rw [stripComments_lineComment, stripComments_lineComment]
      refine ih _ _ ?_ inside.dropLine
      exact (List.dropWhile_sublist _).length_le.trans (Nat.le_succ _)
  | @blockComment inner body _ found =>
      obtain rfl := eq_of_untab_eq same isBlank_slash
      obtain ⟨right, rfl, inside⟩ := behind.of_cons isBlank_star
      have ends := inside.blockBody?
      cases found' : Token.blockBody? right with
      | none => simp [found, found'] at ends
      | some pair' =>
          rw [stripComments_comment (.blockComment found) rfl,
            stripComments_comment (.blockComment found') rfl]
          rw [found, found', Option.map_some, Option.map_some, Option.rel_some_some] at ends
          exact ih _ _ shorter ends
  | @literal _ _ body _ opens found =>
      obtain rfl := eq_of_untab_eq same (not_blank_of_isQuote opens)
      have ends := behind.literalBody? opens
      cases found' : Token.literalBody? d right with
      | none => simp [found, found'] at ends
      | some pair' =>
          rw [stripComments_kept (.literal opens found) rfl,
            stripComments_kept (.literal opens found') rfl, source_literal_append,
            source_literal_append]
          rw [found, found', Option.rel_some_some] at ends
          obtain ⟨rests, fronts⟩ := ends
          have bodies := fronts _ _ (ih _ _ shorter rests)
          simp only [List.append_assoc, List.singleton_append] at bodies
          exact .char rfl bodies
  | plain no_literal no_line_comment no_block_comment =>
      have reads := Reads.plain no_literal no_line_comment no_block_comment
      rw [stripComments_kept reads rfl, stripComments_kept (behind.reads_plain same reads) rfl]
      exact .char same (ih _ _ shorter behind)

/-- Respaced texts have respaced stripped texts. -/
theorem Respaced.stripComments {left right : Text} (respaced : Respaced left right) :
    Respaced (stripComments left) (stripComments right) := by
  induction len : left.length using Nat.strong_induction_on generalizing left right with
  | _ n ih =>
      subst len
      cases respaced with
      | @blank left right left_blank right_blank =>
          have left_kept := stripComments_blank_append left_blank []
          have right_kept := stripComments_blank_append right_blank []
          rw [stripComments_nil, List.append_nil] at left_kept right_kept
          rw [left_kept, right_kept]
          exact .blank left_blank right_blank
      | @lineBreak gap gap' left right gap_blank gap_blank' behind =>
          rw [stripComments_blank_append gap_blank, stripComments_blank_append gap_blank',
            stripComments_newline, stripComments_newline]
          refine .lineBreak gap_blank gap_blank' (ih left.length ?_ behind rfl)
          simp only [List.length_append, List.length_cons]
          omega
      | @char c d left right same behind =>
          apply stripComments_char same behind
          intro later later' bound respaced
          exact ih later.length (Nat.lt_succ_of_le bound) respaced rfl

end Source
end CHeader
