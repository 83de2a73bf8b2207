import CHeader.Text

/-!
# JSON values

A JSON value keeps its numbers as they are written and the fields of an object in their order,
with duplicates.  The tokens of a value are what its written forms have in common: layouts differ
only in the white space between tokens.
-/

namespace CHeader

/-- A JSON value.  The text of a string or of a field name is missing if a surrogate escape in it
has no partner. -/
inductive Json where
  | null
  | bool (value : Bool)
  | number (literal : Text)
  | string (text : Option Text)
  | array (items : List Json)
  | object (fields : List (Option Text × Json))
  deriving Repr

namespace Json

/-- The lexical units of JSON. -/
inductive Token where
  | openBracket
  | closeBracket
  | openBrace
  | closeBrace
  | comma
  | colon
  | null
  | bool (value : Bool)
  | number (literal : Text)
  | string (text : Option Text)
  deriving DecidableEq, Repr

mutual

/-- The tokens of a value. -/
def tokens : Json → List Token
  | .null => [.null]
  | .bool value => [.bool value]
  | .number literal => [.number literal]
  | .string text => [.string text]
  | .array [] => [.openBracket, .closeBracket]
  | .array (item :: items) =>
      .openBracket :: (item.tokens ++ itemTokens items ++ [.closeBracket])
  | .object [] => [.openBrace, .closeBrace]
  | .object ((name, value) :: fields) =>
      .openBrace :: .string name :: .colon ::
        (value.tokens ++ fieldTokens fields ++ [.closeBrace])

/-- The tokens of the items behind the first, each with the comma before it. -/
def itemTokens : List Json → List Token
  | [] => []
  | item :: items => .comma :: (item.tokens ++ itemTokens items)

/-- The tokens of the fields behind the first, each with the comma before it. -/
def fieldTokens : List (Option Text × Json) → List Token
  | [] => []
  | (name, value) :: fields =>
      .comma :: .string name :: .colon :: (value.tokens ++ fieldTokens fields)

end

/-- A string that has a text. -/
def ofText (text : Text) : Json :=
  .string (some text)

/-- An integer in decimal. -/
def ofInt (value : Int) : Json :=
  .number (Text.ofInt value)

/-- An object with the given fields. -/
def ofFields (fields : List (Text × Json)) : Json :=
  .object (fields.map fun (name, value) => (some name, value))

end Json
end CHeader
