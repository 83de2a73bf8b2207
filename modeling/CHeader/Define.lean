import CHeader.Source.Normal

/-!
# Object-like and function-like macros

A line `#define NAME VALUE` of the normal form defines a macro.  The name is the run of characters
up to the next space, so a function-like macro keeps its parameter list as long as that holds no
space.  A value that ends in a backslash continues on the next line; such macros are left out.
-/

namespace CHeader

/-- The name of a macro and its value as written. -/
structure Define where
  /-- The name, with the parameter list of a function-like macro. -/
  name : Text
  /-- The rest of the line. -/
  value : Text
  deriving DecidableEq, Repr

namespace Define

/-- What follows one or more spaces at the front of a text. -/
def afterSpaces? : Text → Option Text
  | ' ' :: text => some (text.dropWhile (· = ' '))
  | _ => none

/-- Reads a line, whether or not its value is continued. -/
def ofLine? (line : Text) : Option Define := do
  let behind ← Text.dropFront? "#define".toList (line.dropWhile (· = ' '))
  let text ← afterSpaces? behind
  let name := text.takeWhile (· ≠ ' ')
  let value ← afterSpaces? (text.dropWhile (· ≠ ' '))
  if name.isEmpty || value.isEmpty then none else some { name, value }

/-- Whether the value goes on in the next line. -/
def isContinued (define : Define) : Bool :=
  define.value.getLast? == some '\\'

/-- The defining lines of a header, continued ones included. -/
def lines (text : Text) : List Define :=
  (Source.normalLines text).filterMap ofLine?

/-- The macros of a header in the order of their lines, duplicates included. -/
def ofHeader (text : Text) : List Define :=
  (lines text).filter fun define => !define.isContinued

end Define
end CHeader
