import CHeader.Path

/-!
# Path patterns

A path pattern is a path in which `?` stands for any character, `*` for any text, `[…]` for a
character of a class and `[!…]` for one outside it.  A component `**` stands for any number of
directories.  A pattern is checked as a whole and then component by component.
-/

namespace CHeader

/-- What may stand in a pattern. -/
inductive PatternPart where
  /-- Exactly this character. -/
  | char (c : Char)
  /-- Any one character. -/
  | anyChar
  /-- Any text. -/
  | anyText
  /-- Any number of directories. -/
  | anyDirectories
  /-- A character in one of the closed ranges. -/
  | oneOf (ranges : List (Char × Char))
  /-- A character in none of the closed ranges. -/
  | noneOf (ranges : List (Char × Char))
  deriving DecidableEq, Repr

/-- What is wrong with a pattern. -/
inductive PatternFault where
  /-- Three or more stars in a row. -/
  | starRun
  /-- Two stars that are not a component of their own. -/
  | starsInName
  /-- A class that is empty or not closed. -/
  | badClass
  deriving DecidableEq, Repr

/-- A fault and its position, counted in characters. -/
structure PatternError where
  /-- Where the fault was found. -/
  position : Nat
  /-- The fault. -/
  fault : PatternFault
  deriving DecidableEq, Repr

/-- The wording of a fault. -/
def PatternFault.message : PatternFault → String
  | starRun => "wildcards are either regular `*` or recursive `**`"
  | starsInName => "recursive wildcards must form a single path component"
  | badClass => "invalid range pattern"

/-- The one-line message. -/
def PatternError.message (error : PatternError) : String :=
  "Pattern syntax error near position " ++ toString error.position ++ ": " ++ error.fault.message

namespace PatternPart

/-- The ranges of a class; a character alone is a range of one. -/
def classRanges : Text → List (Char × Char)
  | first :: '-' :: last :: text => (first, last) :: classRanges text
  | c :: text => (c, c) :: classRanges text
  | [] => []

theorem length_lt_of_cut? {mark : Char} {text front rest : Text}
    (found : Text.cut? mark text = some (front, rest)) : rest.length < text.length := by
  have total := congrArg List.length (Text.cut?_eq_some_iff.mp found).1
  simp only [List.length_append, List.length_cons] at total
  omega

/-- The parts of a pattern that begins at a position behind `previous`. -/
def parseFrom (position : Nat) (previous : Option Char) (text : Text) :
    Except PatternError (List PatternPart) :=
  match text with
  | [] => .ok []
  | '?' :: rest => (parseFrom (position + 1) (some '?') rest).map (anyChar :: ·)
  | '*' :: '*' :: '*' :: _ => .error ⟨position + 2, .starRun⟩
  | '*' :: '*' :: rest =>
      if previous.isNone || previous == some '/' then
        match rest with
        | [] => .ok [anyDirectories]
        | '/' :: rest => (parseFrom (position + 3) (some '/') rest).map (anyDirectories :: ·)
        | _ => .error ⟨position + 2, .starsInName⟩
      else .error ⟨position - 1, .starsInName⟩
  | '*' :: rest => (parseFrom (position + 1) (some '*') rest).map (anyText :: ·)
  | '[' :: '!' :: c :: rest =>
      match _closed : Text.cut? ']' rest with
      | none => .error ⟨position, .badClass⟩
      | some (inner, later) =>
          (parseFrom (position + inner.length + 4) (some ']') later).map
            (noneOf (classRanges (c :: inner)) :: ·)
  | '[' :: c :: rest =>
      match _closed : if c = '!' then none else Text.cut? ']' rest with
      | none => .error ⟨position, .badClass⟩
      | some (inner, later) =>
          (parseFrom (position + inner.length + 3) (some ']') later).map
            (oneOf (classRanges (c :: inner)) :: ·)
  | ['['] => .error ⟨position, .badClass⟩
  | c :: rest => (parseFrom (position + 1) (some c) rest).map (char c :: ·)
termination_by text.length
decreasing_by
  all_goals simp only [List.length_cons]
  all_goals try omega
  · have := length_lt_of_cut? _closed
    omega
  · split at _closed
    · simp at _closed
    · have := length_lt_of_cut? _closed
      omega

/-- The parts of a pattern. -/
def parse (text : Text) : Except PatternError (List PatternPart) :=
  parseFrom 0 none text

/-- Whether a character is in one of the ranges. -/
def inRanges (ranges : List (Char × Char)) (c : Char) : Bool :=
  ranges.any fun range => range.1 ≤ c && c ≤ range.2

/-- Whether a test holds of a text or of what is left of it behind some characters. -/
def anySuffix (test : Text → Bool) : Text → Bool
  | [] => test []
  | c :: text => test (c :: text) || anySuffix test text

/-- Whether parts stand for the whole of a text. -/
def matchText : List PatternPart → Text → Bool
  | [], text => text.isEmpty
  | .anyText :: parts, text => anySuffix (matchText parts) text
  | .anyDirectories :: parts, text => anySuffix (matchText parts) text
  | _ :: _, [] => false
  | .char d :: parts, c :: text => c == d && matchText parts text
  | .anyChar :: parts, _ :: text => matchText parts text
  | .oneOf ranges :: parts, c :: text => inRanges ranges c && matchText parts text
  | .noneOf ranges :: parts, c :: text => !inRanges ranges c && matchText parts text

/-- The text that parts stand for, if they stand for one only. -/
def literal? : List PatternPart → Option Text
  | [] => some []
  | .char c :: parts => (literal? parts).map (c :: ·)
  | _ :: _ => none

end PatternPart

/-- A component of a path pattern. -/
inductive PatternComponent where
  /-- A name without wildcards. -/
  | name (text : Text)
  /-- A name with wildcards. -/
  | wildcard (parts : List PatternPart)
  /-- Any number of directories. -/
  | anyDirectories
  deriving DecidableEq, Repr

namespace PatternComponent

/-- The component with the given parts. -/
def ofParts (parts : List PatternPart) : PatternComponent :=
  match PatternPart.literal? parts with
  | some text => name text
  | none => if parts == [.anyDirectories] then anyDirectories else wildcard parts

/-- Whether a component stands for the name of a directory entry, which has to be a text. -/
def matchName (component : PatternComponent) (entry : Path) : Bool :=
  match entry.text? with
  | none => false
  | some text =>
      match component with
      | name expected => expected == text
      | wildcard parts => PatternPart.matchText parts text
      | anyDirectories => false

end PatternComponent

/-- A pattern for paths. -/
structure PathPattern where
  /-- Whether paths start at the root. -/
  absolute : Bool
  /-- The components in order. -/
  components : List PatternComponent
  /-- Whether paths have to lead to directories. -/
  directoryOnly : Bool
  deriving DecidableEq, Repr

namespace PathPattern

/-- The texts of the components of a relative pattern: a slash at the end has none behind it, and
an empty pattern has one empty component. -/
def componentTexts (text : Text) : List Text :=
  if text.getLast? == some '/' then text.dropLast.splitOn '/' else text.splitOn '/'

/-- Reads a pattern. -/
def parse (text : Text) : Except PatternError PathPattern := do
  let _ ← PatternPart.parse text
  let absolute := text.head? == some '/'
  let parts ← (componentTexts (if absolute then text.drop 1 else text)).mapM PatternPart.parse
  return {
    absolute
    components := parts.map PatternComponent.ofParts
    directoryOnly := text.getLast? == some '/' }

end PathPattern
end CHeader
