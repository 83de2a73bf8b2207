import CHeader.Json.Lexer

/-!
# Reading JSON

The tokens of a text are read one after the other by a machine with a stack.  A frame of the stack
holds an array or an object that is not closed yet; the state says what may follow.
-/

namespace CHeader
namespace Json

/-- An unfinished array or object.  What it holds so far is in reverse order. -/
inductive Frame where
  | items (before : List Json)
  | field (before : List (Option Text × Json)) (name : Option Text)
  deriving Repr

/-- What the reader expects next. -/
inductive Reader where
  /-- A value. -/
  | value (stack : List Frame)
  /-- The first item of an array or the end of it. -/
  | firstItem (stack : List Frame)
  /-- The first field of an object or the end of it. -/
  | firstField (stack : List Frame)
  /-- The next field of an object. -/
  | nextField (before : List (Option Text × Json)) (stack : List Frame)
  /-- The colon behind a field name. -/
  | colon (before : List (Option Text × Json)) (name : Option Text) (stack : List Frame)
  /-- What follows a complete value. -/
  | complete (value : Json) (stack : List Frame)
  deriving Repr

namespace Reader

/-- Reads the first token of a value. -/
def beginValue (stack : List Frame) : Token → Option Reader
  | .openBracket => some (firstItem stack)
  | .openBrace => some (firstField stack)
  | .null => some (complete .null stack)
  | .bool truth => some (complete (.bool truth) stack)
  | .number literal => some (complete (.number literal) stack)
  | .string text => some (complete (.string text) stack)
  | _ => none

/-- Reads one token. -/
def step : Reader → Token → Option Reader
  | value stack, token => beginValue stack token
  | firstItem stack, .closeBracket => some (complete (.array []) stack)
  | firstItem stack, token => beginValue (.items [] :: stack) token
  | firstField stack, .closeBrace => some (complete (.object []) stack)
  | firstField stack, .string name => some (colon [] name stack)
  | nextField before stack, .string name => some (colon before name stack)
  | colon before name stack, .colon => some (value (.field before name :: stack))
  | complete item (.items before :: stack), .comma =>
      some (value (.items (item :: before) :: stack))
  | complete item (.items before :: stack), .closeBracket =>
      some (complete (.array (item :: before).reverse) stack)
  | complete content (.field before name :: stack), .comma =>
      some (nextField ((name, content) :: before) stack)
  | complete content (.field before name :: stack), .closeBrace =>
      some (complete (.object ((name, content) :: before).reverse) stack)
  | _, _ => none

/-- Reads tokens one after the other. -/
def run : Reader → List Token → Option Reader
  | reader, [] => some reader
  | reader, token :: tokens => (reader.step token).bind fun reader => run reader tokens

end Reader

/-- The value that tokens denote. -/
def ofTokens? (tokens : List Token) : Option Json :=
  match Reader.run (.value []) tokens with
  | some (.complete json []) => some json
  | _ => none

/-- The value that a JSON text denotes. -/
def read? (text : Text) : Option Json :=
  (lex? text).bind ofTokens?

end Json
end CHeader
