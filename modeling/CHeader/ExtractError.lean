import CHeader.Text

/-!
# Failures of extraction

Resolving an enum and splitting an array type can fail.  Each cause keeps the text that it found
at fault; the wording stands in one place.
-/

namespace CHeader

/-- What an enum declaration lacks. -/
inductive EnumFault where
  /-- No `enum` with a name behind it. -/
  | noName
  /-- No body in braces; the name of the enum is known. -/
  | noBody (name : Text)
  deriving DecidableEq, Repr

/-- The causes of a failed extraction. -/
inductive ExtractError where
  /-- An entry of an enum body does not begin with an identifier. -/
  | malformedEnumerator (enumName entry : Text)
  /-- A text is no enum declaration. -/
  | malformedEnum (fault : EnumFault) (declaration : Text)
  /-- The count of an array type is neither a known constant nor a literal in range. -/
  | invalidArrayCount (declaration count : Text)
  deriving DecidableEq, Repr

/-- What is wrong with an enum declaration. -/
def EnumFault.message : EnumFault → String
  | noName => "no `enum <name>` found"
  | noBody name => "no `{ ... }` body for `" ++ String.ofList name ++ "`"

namespace ExtractError

/-- The one-line message. -/
def message : ExtractError → String
  | malformedEnumerator enumName entry =>
      "error extracting enum for `" ++ String.ofList enumName ++ "`, member `" ++
        String.ofList entry ++ "`"
  | malformedEnum fault _ => "malformed enum declaration: " ++ fault.message
  | invalidArrayCount declaration count =>
      "invalid array count `" ++ String.ofList count ++ "` in `" ++
        String.ofList declaration ++ "`"

/-- The stable identifier of the cause. -/
def code : ExtractError → String
  | malformedEnumerator .. => "cextract::enums::malformed_enumerator"
  | malformedEnum .. => "cextract::enums::malformed_enum"
  | invalidArrayCount .. => "cextract::types::invalid_count"

/-- Advice, for the causes that have a remedy. -/
def help? : ExtractError → Option String
  | malformedEnumerator .. => some "each enumerator must be `NAME` or `NAME = VALUE`"
  | malformedEnum .. => none
  | invalidArrayCount .. =>
      some "use an integer literal or a name from the constant table"

end ExtractError
end CHeader
