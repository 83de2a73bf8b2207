import CHeader.Text
import CHeader.Text.CodeRange

/-!
# Blanks

A blank is a character with the Unicode property White_Space.  Trimming removes blanks from the
ends of a text, and the words of a text are its longest runs of other characters.
-/

namespace CHeader
namespace Text

/-- The characters that count as white space. -/
def blanks : List CodeRange :=
  [(0x9, 0xD), (0x20, 0x20), (0x85, 0x85), (0xA0, 0xA0), (0x1680, 0x1680), (0x2000, 0x200A),
   (0x2028, 0x2029), (0x202F, 0x202F), (0x205F, 0x205F), (0x3000, 0x3000)]

/-- Whether a character is white space. -/
def isBlank (c : Char) : Bool :=
  CodeRange.covers blanks c.toNat

/-- Whether a text holds nothing but blanks. -/
def isBlankText (text : Text) : Bool :=
  text.all isBlank

/-- Drops the blanks at the front. -/
def trimStart (text : Text) : Text :=
  text.dropWhile isBlank

/-- Drops the blanks at the end. -/
def trimEnd : Text → Text
  | [] => []
  | c :: text =>
      match trimEnd text with
      | [] => if isBlank c then [] else [c]
      | d :: kept => c :: d :: kept

/-- Drops the blanks at both ends. -/
def trim (text : Text) : Text :=
  trimEnd (trimStart text)

/-- The longest runs of characters that are not blank. -/
def words (text : Text) : List Text :=
  (text.splitOnP isBlank).filter fun word => !word.isEmpty

@[simp]
theorem trimEnd_eq_nil_iff {text : Text} : trimEnd text = [] ↔ isBlankText text = true := by
  induction text with
  | nil => simp [trimEnd, isBlankText]
  | cons c text ih =>
      simp only [isBlankText, List.all_cons, Bool.and_eq_true] at ih ⊢
      cases kept : trimEnd text with
      | nil =>
          have := ih.mp kept
          by_cases blank : isBlank c = true <;> simp [trimEnd, kept, blank, this]
      | cons d rest =>
          have : ¬ text.all isBlank = true := fun all => by simp [ih.mpr all] at kept
          simp [trimEnd, kept, this]

end Text
end CHeader
