import CHeader.Block
import CHeader.Enum
import CHeader.ExtractError
import CHeader.IntLiteral

/-!
# Resolving enums

The body of an enum declaration is divided at its commas.  An entry `NAME = VALUE` has the value
of the literal, or keeps the text if that is no literal.  A bare entry `NAME` has the integer
after the last integer before it; expressions in between do not count.
-/

namespace CHeader
namespace Enum

/-- The word characters behind `enum` and one or more spaces at the front of a text, if any. -/
def nameAtFront? (text : Text) : Option Text :=
  match Text.dropFront? BlockKind.enum.keyword text with
  | some (' ' :: behind) =>
      let name := (behind.dropWhile (· = ' ')).takeWhile Text.isWordChar
      if name.isEmpty then none else some name
  | _ => none

/-- The name behind the first `enum` that has one. -/
def name? : Text → Option Text
  | [] => none
  | c :: text => nameAtFront? (c :: text) <|> name? text

/-- The text between the first opening brace and the first closing brace behind it. -/
def body? (text : Text) : Option Text := do
  let (_, inner) ← Text.cut? '{' text
  let (body, _) ← Text.cut? '}' inner
  return body

/-- The form of an entry of an enum body. -/
inductive Entry where
  /-- `NAME = VALUE`, with the value trimmed. -/
  | assigned (name value : Text)
  /-- `NAME`; what follows the identifier is ignored. -/
  | bare (name : Text)
  deriving DecidableEq, Repr

/-- Reads an entry, which has to begin with an identifier behind blanks. -/
def Entry.ofText? (text : Text) : Option Entry :=
  let front := Text.trimStart text
  let name := front.takeWhile Text.isWordChar
  if name.isEmpty then none
  else
    match Text.trimStart (front.dropWhile Text.isWordChar) with
    | '=' :: value => some (assigned name (Text.trim value))
    | _ => some (bare name)

/-- The entries of a body that are not blank. -/
def entries (body : Text) : List Text :=
  (body.splitOn ',').filter fun entry => !Text.isBlankText entry

/-- The value that a text assigns. -/
def valueOf (text : Text) : EnumValue :=
  match IntLiteral.parse? text with
  | some value => .int value
  | none => .expr text

/-- The enumerator of an entry, if `previous` is the last integer before it. -/
def Entry.enumerator (previous : Int) : Entry → Enumerator
  | assigned name value => ⟨name, valueOf value⟩
  | bare name => ⟨name, .int (previous + 1)⟩

/-- Resolves the entries of the enum `name` in order, if `previous` is the last integer before
them. -/
def resolveEntries (name : Text) : Int → List Text → Except ExtractError (List Enumerator)
  | _, [] => .ok []
  | previous, text :: texts =>
      match Entry.ofText? text with
      | none => .error (.malformedEnumerator name text)
      | some entry =>
          let enumerator := entry.enumerator previous
          (resolveEntries name (enumerator.value.int?.getD previous) texts).map (enumerator :: ·)

/-- Resolves the text of an enum declaration. -/
def resolve (text : Text) : Except ExtractError Enum :=
  match name? text with
  | none => .error (.malformedEnum .noName text)
  | some name =>
      match body? (text.map fun c => if c = '\n' then ' ' else c) with
      | none => .error (.malformedEnum (.noBody name) text)
      | some body => (resolveEntries name (-1) (entries body)).map fun enumerators =>
          { name, enumerators }

end Enum
end CHeader
