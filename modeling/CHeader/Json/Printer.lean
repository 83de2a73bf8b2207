import CHeader.Json

/-!
# Writing JSON

A value is written without white space, or with one item or field to a line and two spaces of
indentation for each level.  In strings only the quote, the backslash and the control characters
below the space are escaped.
-/

namespace CHeader
namespace Json

/-- The two layouts of written JSON. -/
inductive Layout where
  | compact
  | pretty
  deriving DecidableEq, Repr

namespace Layout

/-- The white space before an item, a field or a closing bracket at a nesting depth. -/
def lineBreak (layout : Layout) (depth : Nat) : Text :=
  match layout with
  | compact => []
  | pretty => '\n' :: List.replicate (2 * depth) ' '

/-- What separates the name of a field from its value. -/
def colon : Layout → Text
  | compact => [':']
  | pretty => [':', ' ']

end Layout

/-- The lower-case hexadecimal digit of a number below 16. -/
def hexDigit (n : Nat) : Char :=
  Nat.digitChar n

/-- A character as it is written in a string. -/
def escape (c : Char) : Text :=
  if c = '"' then ['\\', '"']
  else if c = '\\' then ['\\', '\\']
  else if c = '\x08' then ['\\', 'b']
  else if c = '\x0c' then ['\\', 'f']
  else if c = '\n' then ['\\', 'n']
  else if c = '\r' then ['\\', 'r']
  else if c = '\t' then ['\\', 't']
  else if c < ' ' then ['\\', 'u', '0', '0', hexDigit (c.toNat / 16), hexDigit (c.toNat % 16)]
  else [c]

/-- A string in quotes.  One without a text is written as an escape that has no partner. -/
def quote : Option Text → Text
  | some text => '"' :: text.flatMap escape ++ ['"']
  | none => '"' :: "\\ud800".toList ++ ['"']

mutual

/-- A value as it is written at a nesting depth. -/
def writeAt (layout : Layout) (depth : Nat) : Json → Text
  | .null => "null".toList
  | .bool true => "true".toList
  | .bool false => "false".toList
  | .number literal => literal
  | .string text => quote text
  | .array [] => ['[', ']']
  | .array (item :: items) =>
      '[' :: layout.lineBreak (depth + 1) ++ writeAt layout (depth + 1) item ++
        writeItems layout (depth + 1) items ++ layout.lineBreak depth ++ [']']
  | .object [] => ['{', '}']
  | .object ((name, value) :: fields) =>
      '{' :: layout.lineBreak (depth + 1) ++ quote name ++ layout.colon ++
        writeAt layout (depth + 1) value ++ writeFields layout (depth + 1) fields ++
        layout.lineBreak depth ++ ['}']

/-- The items behind the first, each with the comma before it. -/
def writeItems (layout : Layout) (depth : Nat) : List Json → Text
  | [] => []
  | item :: items =>
      ',' :: layout.lineBreak depth ++ writeAt layout depth item ++ writeItems layout depth items

/-- The fields behind the first, each with the comma before it. -/
def writeFields (layout : Layout) (depth : Nat) : List (Option Text × Json) → Text
  | [] => []
  | (name, value) :: fields =>
      ',' :: layout.lineBreak depth ++ quote name ++ layout.colon ++ writeAt layout depth value ++
        writeFields layout depth fields

end

/-- A value as a JSON text. -/
def write (layout : Layout) (json : Json) : Text :=
  writeAt layout 0 json

end Json
end CHeader
