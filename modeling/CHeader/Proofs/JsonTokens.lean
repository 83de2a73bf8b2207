import Mathlib.Data.List.Basic
import CHeader.Json.Lexer
import CHeader.Json.Printer
import CHeader.Proofs.Decimal

/-!
# Tokens of written JSON

A written value is read as its tokens, whatever the layout.  A number may be followed only by a
character that does not continue it; all other tokens end by themselves.
-/

namespace CHeader
namespace Json

/-! ## Strings -/

/-- A part in front of the parts that were read. -/
def withPart (part : StringPart) (found : List StringPart × Text) : List StringPart × Text :=
  (part :: found.1, found.2)

theorem hexValue?_hexDigit {n : Nat} (small : n < 16) : hexValue? (hexDigit n) = some n := by
  revert n
  decide

theorem stringParts?_letter {letter meant : Char} (named : unescape? letter = some meant)
    (not_unit : letter ≠ 'u') (text : Text) :
    stringParts? ('\\' :: letter :: text) =
      (stringParts? text).map (withPart (.char meant)) := by
  rw [stringParts?]
  · rw [named]
    cases stringParts? text <;> rfl
  · rintro a b c d behind same
    exact absurd same not_unit

theorem stringParts?_unit {c : Char} (control : c < ' ') (text : Text) :
    stringParts? ('\\' :: 'u' :: '0' :: '0' :: hexDigit (c.toNat / 16) ::
      hexDigit (c.toNat % 16) :: text) = (stringParts? text).map (withPart (.unit c.toNat)) := by
  have small : c.toNat < 32 := control
  have code : unitOf? '0' '0' (hexDigit (c.toNat / 16)) (hexDigit (c.toNat % 16)) =
      some c.toNat := by
    have zero : hexValue? '0' = some 0 := rfl
    have high : hexValue? (hexDigit (c.toNat / 16)) = some (c.toNat / 16) :=
      hexValue?_hexDigit (by omega)
    have low : hexValue? (hexDigit (c.toNat % 16)) = some (c.toNat % 16) :=
      hexValue?_hexDigit (by omega)
    simp [unitOf?, zero, high, low]
    omega
  rw [stringParts?, code]
  cases stringParts? text <;> rfl

theorem stringParts?_plain {c : Char} (not_quote : c ≠ '"') (not_backslash : c ≠ '\\')
    (not_control : ¬ c < ' ') (text : Text) :
    stringParts? (c :: text) = (stringParts? text).map (withPart (.char c)) := by
  rw [stringParts?]
  · rw [if_neg (by simp [not_control, not_backslash])]
    cases stringParts? text <;> rfl
  · exact not_quote
  · rintro a b c d behind same
    exact absurd same not_backslash
  · rintro letter behind same
    exact absurd same not_backslash

theorem joinParts?_unit {c : Char} (control : c < ' ') (parts : List StringPart) :
    joinParts? (.unit c.toNat :: parts) = (joinParts? parts).map (c :: ·) := by
  have small : c.toNat < 32 := control
  have no_surrogate : ¬ (0xD800 ≤ c.toNat ∧ c.toNat < 0xDC00) := by omega
  have no_low_surrogate : ¬ (0xDC00 ≤ c.toNat ∧ c.toNat < 0xE000) := by omega
  rw [joinParts?.eq_def]
  simp only [if_neg no_surrogate, if_neg no_low_surrogate, Char.ofNat_toNat]

/-- The characters that are escaped by a letter or by themselves. -/
def named : Text :=
  ['"', '\\', '\x08', '\x0c', '\n', '\r', '\t']

theorem exists_letter_escape {c : Char} (member : c ∈ named) :
    ∃ letter, escape c = ['\\', letter] ∧ letter ≠ 'u' ∧ unescape? letter = some c := by
  simp only [named, List.mem_cons, List.not_mem_nil, or_false] at member
  rcases member with rfl | rfl | rfl | rfl | rfl | rfl | rfl
  · exact ⟨'"', rfl, by decide, rfl⟩
  · exact ⟨'\\', rfl, by decide, rfl⟩
  · exact ⟨'b', rfl, by decide, rfl⟩
  · exact ⟨'f', rfl, by decide, rfl⟩
  · exact ⟨'n', rfl, by decide, rfl⟩
  · exact ⟨'r', rfl, by decide, rfl⟩
  · exact ⟨'t', rfl, by decide, rfl⟩

theorem escape_of_notMem_named {c : Char} (not_named : c ∉ named) :
    escape c = if c < ' ' then
      ['\\', 'u', '0', '0', hexDigit (c.toNat / 16), hexDigit (c.toNat % 16)] else [c] := by
  simp only [named, List.mem_cons, List.not_mem_nil, or_false, not_or] at not_named
  obtain ⟨quote, backslash, backspace, feed, newline, return_, tab⟩ := not_named
  simp only [escape, quote, backslash, backspace, feed, newline, return_, tab, if_false]

/-- A written character is read as one part, which stands for that character. -/
theorem exists_part_escape (c : Char) :
    ∃ part, (∀ text, stringParts? (escape c ++ text) = (stringParts? text).map (withPart part)) ∧
      ∀ parts, joinParts? (part :: parts) = (joinParts? parts).map (c :: ·) := by
  by_cases is_named : c ∈ named
  · obtain ⟨letter, written, not_unit, meant⟩ := exists_letter_escape is_named
    refine ⟨.char c, fun text => ?_, fun parts => by rw [joinParts?]⟩
    rw [written]
    exact stringParts?_letter meant not_unit text
  · have written := escape_of_notMem_named is_named
    by_cases control : c < ' '
    · refine ⟨.unit c.toNat, fun text => ?_, joinParts?_unit control⟩
      rw [written, if_pos control]
      exact stringParts?_unit control text
    · refine ⟨.char c, fun text => ?_, fun parts => by rw [joinParts?]⟩
      rw [written, if_neg control]
      simp only [named, List.mem_cons, not_or] at is_named
      exact stringParts?_plain is_named.1 is_named.2.1 control text

theorem exists_parts_flatMap_escape (text rest : Text) :
    ∃ parts, stringParts? (text.flatMap escape ++ '"' :: rest) = some (parts, rest) ∧
      joinParts? parts = some text := by
  induction text with
  | nil => exact ⟨[], by rw [List.flatMap_nil, List.nil_append, stringParts?], by rw [joinParts?]⟩
  | cons c text ih =>
      obtain ⟨parts, read, joined⟩ := ih
      obtain ⟨part, read_front, joined_front⟩ := exists_part_escape c
      refine ⟨part :: parts, ?_, by rw [joined_front, joined]; rfl⟩
      rw [List.flatMap_cons, List.append_assoc, read_front, read]
      rfl

/-! ## Integers -/

/-- Whether a character may begin an integer. -/
def beginsInteger (c : Char) : Bool :=
  c == '-' || isDigit c

/-- Whether a character may continue an integer. -/
def continuesInteger (c : Char) : Bool :=
  isDigit c || c == '.' || c == 'e' || c == 'E'

/-- Whether a number that stands before a text ends there. -/
def Ended (rest : Text) : Prop :=
  ∀ c ∈ rest.head?, continuesInteger c = false

@[simp]
theorem ended_nil : Ended [] := by
  simp [Ended]

@[simp]
theorem ended_cons {c : Char} {rest : Text} :
    Ended (c :: rest) ↔ continuesInteger c = false := by
  simp [Ended]

theorem ne_of_beginsInteger {c : Char} (begins : beginsInteger c = true) (mark : Char)
    (other : beginsInteger mark = false) : c ≠ mark := by
  rintro rfl
  simp [other] at begins

theorem isDigit_of_mem_ofNat {n : Nat} {c : Char} (member : c ∈ Text.ofNat n) :
    isDigit c = true := by
  have digit := IntLiteral.isDigit_of_mem_ofNat member
  simp only [Char.isDigit, Bool.and_eq_true, decide_eq_true_eq] at digit
  simp only [isDigit, Bool.and_eq_true, decide_eq_true_eq]
  exact digit

theorem exists_cons_ofNat (n : Nat) : ∃ c text, Text.ofNat n = c :: text ∧ isDigit c = true := by
  obtain ⟨c, text, split⟩ := List.exists_cons_of_ne_nil (Nat.toDigits_ne_nil (n := n) (b := 10))
  exact ⟨c, text, split, isDigit_of_mem_ofNat (n := n) (by simp [Text.ofNat, split])⟩

theorem exists_cons_ofInt (value : Int) :
    ∃ c text, Text.ofInt value = c :: text ∧ beginsInteger c = true := by
  cases value with
  | ofNat n =>
      obtain ⟨c, text, split, digit⟩ := exists_cons_ofNat n
      exact ⟨c, text, split, by simp [beginsInteger, digit]⟩
  | negSucc n => exact ⟨'-', Text.ofNat (n + 1), rfl, rfl⟩

section Integer

variable {rest : Text} (ended : Ended rest)

include ended

theorem digits?_ofNat (n : Nat) : digits? (Text.ofNat n ++ rest) = some (Text.ofNat n, rest) := by
  have inside : ∀ c ∈ Text.ofNat n, isDigit c = true := fun c member => isDigit_of_mem_ofNat member
  have outside : ∀ c ∈ rest.head?, isDigit c = false := by
    intro c first
    have other := ended c first
    simp only [continuesInteger, Bool.or_eq_false_iff] at other
    exact other.1.1.1
  obtain ⟨c, text, split, -⟩ := exists_cons_ofNat n
  rw [digits?, Text.takeWhile_append_eq_left inside outside,
    Text.dropWhile_append_eq_right inside outside, split]

theorem integerPart?_ofNat (n : Nat) :
    integerPart? (Text.ofNat n ++ rest) = some (Text.ofNat n, rest) := by
  by_cases positive : 0 < n
  · have first := IntLiteral.head?_ofNat_ne_zero positive
    rw [integerPart?, digits?_ofNat ended]
    obtain ⟨c, text, split, -⟩ := exists_cons_ofNat n
    intro behind same
    rw [split, List.cons_append] at same
    simp [split, (List.cons.inj same).1] at first
  · obtain rfl : n = 0 := by omega
    rfl

theorem fractionPart?_of_ended : fractionPart? rest = some ([], rest) := by
  unfold fractionPart?
  split
  · next text => simpa [continuesInteger] using ended '.' rfl
  · rfl

theorem exponentPart?_of_ended : exponentPart? rest = some ([], rest) := by
  unfold exponentPart?
  split
  · rfl
  · next c text =>
      have other := ended c rfl
      simp only [continuesInteger, Bool.or_eq_false_iff, beq_eq_false_iff_ne] at other
      rw [if_neg (by simp [other.2, other.1.2])]

theorem unsignedNumber?_ofNat (n : Nat) :
    unsignedNumber? (Text.ofNat n ++ rest) = some (Text.ofNat n, rest) := by
  simp [unsignedNumber?, integerPart?_ofNat ended, fractionPart?_of_ended ended,
    exponentPart?_of_ended ended]

theorem number?_ofInt (value : Int) :
    number? (Text.ofInt value ++ rest) = some (Text.ofInt value, rest) := by
  cases value with
  | ofNat n =>
      rw [number?]
      · exact unsignedNumber?_ofNat ended n
      · obtain ⟨c, text, split, digit⟩ := exists_cons_ofNat n
        intro behind same
        rw [Text.ofInt, split, List.cons_append] at same
        simp [(List.cons.inj same).1, isDigit] at digit
  | negSucc n =>
      rw [Text.ofInt, List.cons_append, number?, unsignedNumber?_ofNat ended]
      rfl

end Integer

/-! ## Tokens -/

theorem lex?_nil : lex? [] = some [] := by
  rw [lex?]

theorem lex?_space {c : Char} (space : isSpace c = true) (text : Text) :
    lex? (c :: text) = lex? text := by
  rw [lex?, if_pos space]

theorem lex?_token {c : Char} {text rest : Text} {token : Token} (no_space : isSpace c = false)
    (read : token? c text = some (token, rest)) :
    lex? (c :: text) = (lex? rest).map (token :: ·) := by
  rw [lex?, if_neg (by simp [no_space])]
  split
  · next none_read => simp [read] at none_read
  · next token' rest' read' =>
      rw [read] at read'
      obtain ⟨rfl, rfl⟩ := Prod.mk.inj (Option.some.inj read')
      rfl

theorem lex?_lineBreak (layout : Layout) (depth : Nat) (rest : Text) :
    lex? (layout.lineBreak depth ++ rest) = lex? rest := by
  cases layout with
  | compact => rfl
  | pretty =>
      have spaces (n : Nat) : lex? (List.replicate n ' ' ++ rest) = lex? rest := by
        induction n with
        | zero => rfl
        | succ n ih => rw [List.replicate_succ, List.cons_append, lex?_space rfl, ih]
      rw [Layout.lineBreak, List.cons_append, lex?_space rfl, spaces]

theorem lex?_colon (layout : Layout) (rest : Text) :
    lex? (layout.colon ++ rest) = (lex? rest).map (.colon :: ·) := by
  cases layout with
  | compact => exact lex?_token rfl rfl
  | pretty =>
      have read : token? ':' (' ' :: rest) = some (.colon, ' ' :: rest) := rfl
      rw [Layout.colon, List.cons_append, List.singleton_append, lex?_token rfl read,
        lex?_space rfl]

theorem lex?_quote (text : Option Text) (rest : Text) :
    lex? (quote text ++ rest) = (lex? rest).map (.string text :: ·) := by
  cases text with
  | none =>
      have token : token? '"' ('\\' :: 'u' :: 'd' :: '8' :: '0' :: '0' :: '"' :: rest) =
          some (.string none, rest) := by
        simp [token?, stringParts?, unitOf?, hexValue?, joinParts?]
      exact lex?_token rfl token
  | some text =>
      obtain ⟨parts, read, joined⟩ := exists_parts_flatMap_escape text rest
      have token : token? '"' (text.flatMap escape ++ '"' :: rest) =
          some (.string (some text), rest) := by
        simp [token?, read, joined]
      rw [quote, List.cons_append, List.cons_append, List.append_assoc]
      exact lex?_token rfl token

theorem token?_of_beginsInteger {c : Char} (begins : beginsInteger c = true) (text : Text) :
    token? c text = (number? (c :: text)).map fun found => (.number found.1, found.2) := by
  have other := ne_of_beginsInteger begins
  rw [token?, if_neg (other '[' rfl), if_neg (other ']' rfl), if_neg (other '{' rfl),
    if_neg (other '}' rfl), if_neg (other ',' rfl), if_neg (other ':' rfl),
    if_neg (other '"' rfl), if_neg (other 'n' rfl), if_neg (other 't' rfl),
    if_neg (other 'f' rfl)]

theorem lex?_ofInt (value : Int) {rest : Text} (ended : Ended rest) :
    lex? (Text.ofInt value ++ rest) = (lex? rest).map (.number (Text.ofInt value) :: ·) := by
  have read := number?_ofInt ended value
  obtain ⟨c, text, split, begins⟩ := exists_cons_ofInt value
  rw [split, List.cons_append] at read ⊢
  have token : token? c (text ++ rest) = some (.number (c :: text), rest) := by
    rw [token?_of_beginsInteger begins, read]
    rfl
  have other := ne_of_beginsInteger begins
  have no_space : isSpace c = false := by
    simp [isSpace, other ' ' rfl, other '\n' rfl, other '\t' rfl, other '\r' rfl]
  exact lex?_token no_space token

/-! ## Values -/

/-- A value all of whose numbers are integers in decimal. -/
inductive IsIntegral : Json → Prop where
  | null : IsIntegral .null
  | bool (value : Bool) : IsIntegral (.bool value)
  | number (value : Int) : IsIntegral (.ofInt value)
  | string (text : Option Text) : IsIntegral (.string text)
  | array {items : List Json} (each : ∀ item ∈ items, IsIntegral item) : IsIntegral (.array items)
  | object {fields : List (Option Text × Json)} (each : ∀ field ∈ fields, IsIntegral field.2) :
      IsIntegral (.object fields)

/-- Whether the tokens of a value are read wherever it is written, if no number goes on behind. -/
def IsLexed (layout : Layout) (json : Json) : Prop :=
  ∀ depth rest, Ended rest →
    lex? (writeAt layout depth json ++ rest) = (lex? rest).map (json.tokens ++ ·)

theorem ended_lineBreak_append (layout : Layout) (depth : Nat) {rest : Text} (ended : Ended rest) :
    Ended (layout.lineBreak depth ++ rest) := by
  cases layout with
  | compact => exact ended
  | pretty => exact ended_cons.mpr rfl

theorem ended_writeItems_append (layout : Layout) (depth : Nat) (items : List Json) {rest : Text}
    (ended : Ended rest) : Ended (writeItems layout depth items ++ rest) := by
  cases items with
  | nil => exact ended
  | cons item items => exact ended_cons.mpr rfl

theorem ended_writeFields_append (layout : Layout) (depth : Nat)
    (fields : List (Option Text × Json)) {rest : Text} (ended : Ended rest) :
    Ended (writeFields layout depth fields ++ rest) := by
  cases fields with
  | nil => exact ended
  | cons field fields => exact ended_cons.mpr rfl

theorem lex?_writeItems {layout : Layout} {items : List Json}
    (each : ∀ item ∈ items, IsLexed layout item) (depth : Nat) {rest : Text} (ended : Ended rest) :
    lex? (writeItems layout depth items ++ rest) = (lex? rest).map (itemTokens items ++ ·) := by
  induction items with
  | nil => simp [writeItems, itemTokens]
  | cons item items ih =>
      obtain ⟨first, later⟩ := List.forall_mem_cons.mp each
      simp only [writeItems, List.cons_append, List.append_assoc]
      rw [lex?_token (by rfl) (by rfl), lex?_lineBreak,
        first depth _ (ended_writeItems_append layout depth items ended), ih later]
      simp [itemTokens, Function.comp_def]

theorem lex?_writeFields {layout : Layout} {fields : List (Option Text × Json)}
    (each : ∀ field ∈ fields, IsLexed layout field.2) (depth : Nat) {rest : Text}
    (ended : Ended rest) :
    lex? (writeFields layout depth fields ++ rest) =
      (lex? rest).map (fieldTokens fields ++ ·) := by
  induction fields with
  | nil => simp [writeFields, fieldTokens]
  | cons field fields ih =>
      obtain ⟨first, later⟩ := List.forall_mem_cons.mp each
      simp only [writeFields, List.cons_append, List.append_assoc]
      rw [lex?_token (by rfl) (by rfl), lex?_lineBreak, lex?_quote, lex?_colon,
        first depth _ (ended_writeFields_append layout depth fields ended), ih later]
      simp [fieldTokens, Function.comp_def]

theorem isLexed_array {layout : Layout} {items : List Json}
    (each : ∀ item ∈ items, IsLexed layout item) : IsLexed layout (.array items) := by
  intro depth rest _
  have closing : lex? (']' :: rest) = (lex? rest).map (.closeBracket :: ·) :=
    lex?_token rfl rfl
  cases items with
  | nil =>
      simp only [writeAt, List.cons_append, List.nil_append]
      rw [lex?_token (by rfl) (by rfl), closing]
      simp [tokens, Function.comp_def]
  | cons item items =>
      obtain ⟨first, later⟩ := List.forall_mem_cons.mp each
      have ended : Ended (layout.lineBreak depth ++ ']' :: rest) :=
        ended_lineBreak_append layout depth (ended_cons.mpr rfl)
      simp only [writeAt, List.cons_append, List.append_assoc, List.nil_append]
      rw [lex?_token (by rfl) (by rfl), lex?_lineBreak,
        first (depth + 1) _ (ended_writeItems_append layout (depth + 1) items ended),
        lex?_writeItems later (depth + 1) ended, lex?_lineBreak, closing]
      simp [tokens, Function.comp_def]

theorem isLexed_object {layout : Layout} {fields : List (Option Text × Json)}
    (each : ∀ field ∈ fields, IsLexed layout field.2) : IsLexed layout (.object fields) := by
  intro depth rest _
  have closing : lex? ('}' :: rest) = (lex? rest).map (.closeBrace :: ·) :=
    lex?_token rfl rfl
  cases fields with
  | nil =>
      simp only [writeAt, List.cons_append, List.nil_append]
      rw [lex?_token (by rfl) (by rfl), closing]
      simp [tokens, Function.comp_def]
  | cons field fields =>
      obtain ⟨first, later⟩ := List.forall_mem_cons.mp each
      have ended : Ended (layout.lineBreak depth ++ '}' :: rest) :=
        ended_lineBreak_append layout depth (ended_cons.mpr rfl)
      simp only [writeAt, List.cons_append, List.append_assoc, List.nil_append]
      rw [lex?_token (by rfl) (by rfl), lex?_lineBreak, lex?_quote, lex?_colon,
        first (depth + 1) _ (ended_writeFields_append layout (depth + 1) fields ended),
        lex?_writeFields later (depth + 1) ended, lex?_lineBreak, closing]
      simp [tokens, Function.comp_def]

/-- A written value is read as its tokens. -/
theorem IsIntegral.isLexed {json : Json} (integral : IsIntegral json) (layout : Layout) :
    IsLexed layout json := by
  induction integral with
  | null => exact fun depth rest _ => lex?_token rfl rfl
  | bool value => cases value <;> exact fun depth rest _ => lex?_token rfl rfl
  | number value => exact fun depth rest ended => lex?_ofInt value ended
  | string text => exact fun depth rest _ => lex?_quote text rest
  | array _ each => exact isLexed_array each
  | object _ each => exact isLexed_object each

theorem IsIntegral.lex?_write {json : Json} (integral : IsIntegral json) (layout : Layout) :
    lex? (json.write layout) = some json.tokens := by
  have whole := integral.isLexed layout 0 [] ended_nil
  simpa [lex?_nil, write] using whole

end Json
end CHeader
