import CHeader.Header
import CHeader.Proofs.Decimal
import CHeader.Proofs.Resolution
import CHeader.Proofs.Tokens

/-!
# Printed declarations

Declarations in the shape that headers are usually written in: the lines of a body stand between
`KEYWORD TAG {` and `};`, every enumerator has a line of its own, and a macro is one line.  The
parts of a declaration are free of the characters that would end it, or begin something else, too
early.
-/

namespace CHeader

/-! ## Parts of a declaration -/

/-- Whether a character may begin an ASCII identifier. -/
def isIdentifierStart (c : Char) : Bool :=
  c.isAlpha || c == '_'

/-- Whether a character may stand in an ASCII identifier. -/
def isIdentifierChar (c : Char) : Bool :=
  c.isAlphanum || c == '_'

/-- Whether a text is an ASCII identifier. -/
def isIdentifier : Text → Bool
  | [] => false
  | c :: text => isIdentifierStart c && text.all isIdentifierChar

/-- None of the marks occurs in a text. -/
def Avoids (marks text : Text) : Prop :=
  ∀ c ∈ text, c ∉ marks

instance (marks text : Text) : Decidable (Avoids marks text) :=
  List.decidableBAll (fun c => c ∉ marks) text

/-- The marks that have no place in the value of a macro. -/
def macroMarks : Text :=
  ['\n', '\t', '{', '}', '/', '\'', '"']

/-- The marks that have no place in a line of a body. -/
def bodyMarks : Text :=
  '#' :: macroMarks

/-- An ASCII identifier. -/
structure Identifier where
  text : Text
  valid : isIdentifier text = true

/-- A line in the body of a struct. -/
structure BodyLine where
  text : Text
  nonempty : text ≠ []
  solid_end : ∀ c ∈ text.getLast?, Text.isBlank c = false
  avoids : Avoids bodyMarks text

/-- A value of an enumerator that is no integer literal. -/
structure Expression where
  text : Text
  nonempty : text ≠ []
  trimmed : Text.trim text = text
  no_literal : IntLiteral.parse? text = none
  avoids : Avoids (',' :: bodyMarks) text

/-- A value of a macro that ends on its line. -/
structure Replacement where
  text : Text
  nonempty : text ≠ []
  trimmed : Text.trim text = text
  not_continued : text.getLast? ≠ some '\\'
  avoids : Avoids macroMarks text

/-- How an enumerator gets its value. -/
inductive MemberValue where
  | position
  | literal (value : Int) (in_range : IntLiteral.InRange value)
  | expression (value : Expression)

/-- An enumerator as it is declared. -/
structure Member where
  name : Identifier
  value : MemberValue

/-- A declaration of a header. -/
inductive Item where
  | struct (tag : Identifier) (body : List BodyLine)
  | enum (tag : Identifier) (members : List Member)
  | define (name : Identifier) (value : Replacement)

/-! ## Printing -/

/-- The text in front of the comma. -/
def Member.text : Member → Text
  | ⟨name, .position⟩ => name.text
  | ⟨name, .literal value _⟩ => name.text ++ " = ".toList ++ Text.ofInt value
  | ⟨name, .expression value⟩ => name.text ++ " = ".toList ++ value.text

/-- The line of an enumerator. -/
def Member.line (member : Member) : Text :=
  member.text ++ [',']

/-- The lines of a declaration with a body. -/
def blockLines (kind : BlockKind) (tag : Identifier) (body : List Text) : List Text :=
  (kind.keyword ++ ' ' :: tag.text ++ [' ', '{']) :: (body ++ [['}', ';']])

namespace Item

/-- The lines of a declaration. -/
def lines : Item → List Text
  | struct tag body => blockLines .struct tag (body.map BodyLine.text)
  | enum tag members => blockLines .enum tag (members.map Member.line)
  | define name value => ["#define ".toList ++ name.text ++ ' ' :: value.text]

/-- The printed declaration. -/
def text (item : Item) : Text :=
  Text.ofLines item.lines

example : (Item.enum ⟨"struct".toList, rfl⟩
    [⟨⟨"A".toList, rfl⟩, .literal (-1) (by decide)⟩, ⟨⟨"B".toList, rfl⟩, .position⟩]).text =
      r"enum struct {
A = -1,
B,
};".toList := rfl

/-! ## What the declarations of a header mean -/

/-- The block of a struct. -/
def struct? : Item → Option Block
  | struct tag body => some ⟨(struct tag body).text⟩
  | _ => none

/-- The enumerators of an enum, if `previous` is the last integer before them. -/
def enumerators (previous : Int) : List Member → List Enumerator
  | [] => []
  | ⟨name, .position⟩ :: members =>
      ⟨name.text, .int (previous + 1)⟩ :: enumerators (previous + 1) members
  | ⟨name, .literal value _⟩ :: members => ⟨name.text, .int value⟩ :: enumerators value members
  | ⟨name, .expression value⟩ :: members =>
      ⟨name.text, .expr value.text⟩ :: enumerators previous members

/-- The enumerators count from zero. -/
def enum? : Item → Option Enum
  | enum tag members => some ⟨tag.text, enumerators (-1) members⟩
  | _ => none

/-- The macro of a definition. -/
def define? : Item → Option Define
  | define name value => some ⟨name.text, value.text⟩
  | _ => none

end Item

/-- The header that declares the items. -/
def Header.ofItems (source : Text) (items : List Item) : Header :=
  { source
    structs := items.filterMap Item.struct?
    enums := items.filterMap Item.enum?
    defines := items.filterMap Item.define? }

/-! ## Characters of the parts -/

theorem Avoids.notMem {marks text : Text} (avoids : Avoids marks text) {c : Char}
    (mark : c ∈ marks) : c ∉ text :=
  fun member => avoids c member mark

theorem Avoids.mono {marks fewer text : Text} (avoids : Avoids marks text)
    (subset : fewer ⊆ marks) : Avoids fewer text :=
  fun c member mark => avoids c member (subset mark)

@[simp]
theorem avoids_append {marks front back : Text} :
    Avoids marks (front ++ back) ↔ Avoids marks front ∧ Avoids marks back :=
  List.forall_mem_append

@[simp]
theorem avoids_cons {marks text : Text} {c : Char} :
    Avoids marks (c :: text) ↔ c ∉ marks ∧ Avoids marks text :=
  List.forall_mem_cons

/-- The marks that could change how a line is read. -/
def lineMarks : Text :=
  ['\n', '\t', '/', '\'', '"']

/-- What holds of the ASCII letters, the digits and the low line holds in identifiers. -/
theorem of_isIdentifierChar {p : Char → Prop}
    (all : ∀ code : Fin 128, isIdentifierChar (Char.ofNat code) = true → p (Char.ofNat code))
    {c : Char} (valid : isIdentifierChar c = true) : p c := by
  have ascii : c.toNat < 128 := by
    simp only [isIdentifierChar, Char.isAlphanum, Bool.or_eq_true, beq_iff_eq] at valid
    rcases valid with (letter | digit) | rfl
    · rcases Bool.or_eq_true_iff.mp (show (c.isUpper || c.isLower) = true from letter) with
        upper | lower
      · have range : c.val ≥ 'A'.val ∧ c.val ≤ 'Z'.val := of_decide_eq_true upper
        exact Nat.lt_of_le_of_lt range.2 (by decide)
      · have range : (decide (c.val ≥ 'a'.val) && decide (c.val ≤ 'z'.val)) = true := lower
        exact Nat.lt_of_le_of_lt (of_decide_eq_true (Bool.and_eq_true_iff.mp range).2) (by decide)
    · simp only [Char.isDigit, Bool.and_eq_true, decide_eq_true_eq] at digit
      exact Nat.lt_of_le_of_lt digit.2 (by decide)
    · decide
  exact Text.of_ascii (p := fun c => isIdentifierChar c = true → p c) all ascii valid

/-- The marks that have no place in a word. -/
def wordMarks : Text :=
  ' ' :: ',' :: bodyMarks

theorem not_wordMark_of_isIdentifierChar {c : Char} (valid : isIdentifierChar c = true) :
    c ∉ wordMarks :=
  of_isIdentifierChar (p := fun c => c ∉ wordMarks) (by decide +kernel) valid

namespace Identifier

variable (name : Identifier)

theorem text_ne_nil : name.text ≠ [] := by
  obtain ⟨text, valid⟩ := name
  rintro rfl
  simp [isIdentifier] at valid

theorem isIdentifierChar_of_mem {c : Char} (member : c ∈ name.text) :
    isIdentifierChar c = true := by
  obtain ⟨text, valid⟩ := name
  cases text with
  | nil => simp at member
  | cons d text =>
      simp only [isIdentifier, Bool.and_eq_true, List.all_eq_true] at valid
      rcases List.mem_cons.mp member with rfl | member
      · have start := valid.1
        simp only [isIdentifierStart, Bool.or_eq_true] at start
        simp only [isIdentifierChar, Char.isAlphanum, Bool.or_eq_true]
        exact start.imp_left Or.inl
      · exact valid.2 c member

theorem isWordChar_of_mem {c : Char} (member : c ∈ name.text) : Text.isWordChar c = true :=
  of_isIdentifierChar (p := fun c => Text.isWordChar c = true) (by decide +kernel)
    (name.isIdentifierChar_of_mem member)

theorem isWord : Enum.IsWord name.text :=
  ⟨name.text_ne_nil, fun _ => name.isWordChar_of_mem⟩

theorem not_blank_of_mem {c : Char} (member : c ∈ name.text) : Text.isBlank c = false :=
  Text.not_blank_of_isWordChar (name.isWordChar_of_mem member)

theorem avoids : Avoids wordMarks name.text :=
  fun _ member => not_wordMark_of_isIdentifierChar (name.isIdentifierChar_of_mem member)

end Identifier

/-! ## Lines of a printed declaration -/

/-- A line that the normal form keeps, and that no comment or literal begins in. -/
structure IsPrintedLine (line : Text) : Prop where
  nonempty : line ≠ []
  solid_end : ∀ c ∈ line.getLast?, Text.isBlank c = false
  avoids : Avoids lineMarks line

theorem IsPrintedLine.isTidyLine {line : Text} (printed : IsPrintedLine line) :
    Source.IsTidyLine line where
  nonempty := printed.nonempty
  no_newline := printed.avoids.notMem (by decide)
  no_tab := printed.avoids.notMem (by decide)
  solid_end := printed.solid_end

theorem IsPrintedLine.isOrdinary_of_mem {line : Text} (printed : IsPrintedLine line) {c : Char}
    (member : c ∈ line) : Token.IsOrdinary c := by
  have mark := printed.avoids c member
  simp only [lineMarks, List.mem_cons, List.not_mem_nil, or_false, not_or] at mark
  exact ⟨mark.2.2.1, by simp [Token.isQuote, mark]⟩

theorem Identifier.avoids_lineMarks (name : Identifier) : Avoids lineMarks name.text :=
  name.avoids.mono (by decide)

theorem Text.avoids_ofInt (value : Int) : Avoids wordMarks (ofInt value) := by
  have digits (n : Nat) : Avoids wordMarks (ofNat n) := by
    intro c member
    apply not_wordMark_of_isIdentifierChar
    simp [isIdentifierChar, Char.isAlphanum, IntLiteral.isDigit_of_mem_ofNat member]
  cases value with
  | ofNat n => exact digits n
  | negSucc n => exact avoids_cons.mpr ⟨by decide, digits (n + 1)⟩

theorem Member.avoids (member : Member) : Avoids (',' :: bodyMarks) member.text := by
  obtain ⟨name, value⟩ := member
  have name_avoids : Avoids (',' :: bodyMarks) name.text := name.avoids.mono (by decide)
  have equals_avoids : Avoids (',' :: bodyMarks) " = ".toList := by decide
  cases value with
  | position => exact name_avoids
  | literal value in_range =>
      have value_avoids : Avoids (',' :: bodyMarks) (Text.ofInt value) :=
        (Text.avoids_ofInt value).mono (by decide)
      exact avoids_append.mpr ⟨avoids_append.mpr ⟨name_avoids, equals_avoids⟩, value_avoids⟩
  | expression value =>
      exact avoids_append.mpr ⟨avoids_append.mpr ⟨name_avoids, equals_avoids⟩, value.avoids⟩

theorem isPrintedLine_of_mem_blockLines {kind : BlockKind} {tag : Identifier} {body : List Text}
    (body_printed : ∀ line ∈ body, IsPrintedLine line) :
    ∀ line ∈ blockLines kind tag body, IsPrintedLine line := by
  have opening : IsPrintedLine (kind.keyword ++ ' ' :: tag.text ++ [' ', '{']) := by
    have last : (kind.keyword ++ ' ' :: tag.text ++ [' ', '{']).getLast? = some '{' := by
      rw [List.getLast?_append_of_ne_nil _ (by simp)]
      rfl
    constructor
    · simp
    · exact Text.not_blank_of_getLast? last (by decide)
    · have keyword : Avoids lineMarks kind.keyword := by cases kind <;> decide
      have space : ' ' ∉ lineMarks := by decide
      have brace : Avoids lineMarks [' ', '{'] := by decide
      have front := avoids_append.mpr ⟨keyword, avoids_cons.mpr ⟨space, tag.avoids_lineMarks⟩⟩
      exact avoids_append.mpr ⟨front, brace⟩
  have closing : IsPrintedLine ['}', ';'] := by
    constructor
    · simp
    · exact Text.not_blank_of_getLast? rfl (by decide)
    · decide
  rw [blockLines, List.forall_mem_cons, List.forall_mem_append, List.forall_mem_singleton]
  exact ⟨opening, body_printed, closing⟩

theorem Item.isPrintedLine_of_mem_lines (item : Item) :
    ∀ line ∈ item.lines, IsPrintedLine line := by
  cases item with
  | struct tag body =>
      apply isPrintedLine_of_mem_blockLines
      rw [List.forall_mem_map]
      intro line _
      exact ⟨line.nonempty, line.solid_end, line.avoids.mono (by decide)⟩
  | enum tag members =>
      apply isPrintedLine_of_mem_blockLines
      rw [List.forall_mem_map]
      intro member _
      constructor
      · simp [Member.line]
      · exact Text.not_blank_of_getLast? List.getLast?_concat (by decide)
      · exact avoids_append.mpr ⟨member.avoids.mono (by decide), by decide⟩
  | define name value =>
      rw [lines, List.forall_mem_singleton]
      constructor
      · simp
      · intro c last
        rw [List.getLast?_append_of_ne_nil _ (by simp),
          List.getLast?_cons_of_ne_nil value.nonempty] at last
        exact Text.isBlank_getLast?_of_trim value.trimmed last
      · have directive : Avoids lineMarks "#define ".toList := by decide
        have space : ' ' ∉ lineMarks := by decide
        have value_avoids : Avoids lineMarks value.text := value.avoids.mono (by decide)
        have front := avoids_append.mpr ⟨directive, name.avoids_lineMarks⟩
        exact avoids_append.mpr ⟨front, avoids_cons.mpr ⟨space, value_avoids⟩⟩

end CHeader
