import CHeader.ArrayType
import CHeader.Header
import CHeader.Json.Printer
import CHeader.Json.Reader

/-!
# Headers as JSON

Records are written as objects with their fields in order, blocks and expressions as strings, and
integers as numbers.  A record is read from an object that has each of its fields once, whatever
other fields there are, or from an array of its fields' values.  An enumerator is read only if its
value is a string: numbers are written and not read back.
-/

namespace CHeader
namespace Json

/-- The value of the only field of a name. -/
def field? (fields : List (Option Text × Json)) (name : Text) : Option Json :=
  match fields.filter fun field => field.1 = some name with
  | [field] => some field.2
  | _ => none

/-- The values of the fields of a record, in the given order. -/
def record? (names : List Text) : Json → Option (List Json)
  | .array items => if items.length = names.length then some items else none
  | .object fields =>
      if fields.all fun field => field.1.isSome then names.mapM (field? fields) else none
  | _ => none

/-- The text of a string. -/
def text? : Json → Option Text
  | .string text => text
  | _ => none

/-- The items of an array, each read the same way. -/
def listOf? {α : Type} (read : Json → Option α) : Json → Option (List α)
  | .array items => items.mapM read
  | _ => none

end Json

/-- A block as a string. -/
def Block.toJson (block : Block) : Json :=
  .ofText block.text

/-- Reads a block. -/
def Block.ofJson? (json : Json) : Option Block :=
  json.text?.map Block.mk

/-- An integer as a number, an expression as a string. -/
def EnumValue.toJson : EnumValue → Json
  | .int value => .ofInt value
  | .expr text => .ofText text

/-- Reads a 128-bit integer from a value that has been put into a buffer.  A buffer gives out
integers of up to 64 bits only: it refuses a wider one, even if the value is a small number. -/
def Json.wideInteger? (_buffered : Json) : Option Int :=
  none

/-- Reads an integer or else an expression.  Nothing in the value tells which of them it is, so it
is put into a buffer for both attempts, and the first one fails. -/
def EnumValue.ofJson? (json : Json) : Option EnumValue :=
  json.wideInteger?.map EnumValue.int <|> json.text?.map EnumValue.expr

/-- An enumerator as a record. -/
def Enumerator.toJson (enumerator : Enumerator) : Json :=
  .ofFields [("name".toList, .ofText enumerator.name), ("value".toList, enumerator.value.toJson)]

/-- Reads an enumerator. -/
def Enumerator.ofJson? (json : Json) : Option Enumerator :=
  match json.record? ["name".toList, "value".toList] with
  | some [name, value] => do return { name := ← name.text?, value := ← EnumValue.ofJson? value }
  | _ => none

/-- An enum as a record. -/
def Enum.toJson (enum : Enum) : Json :=
  .ofFields
    [("name".toList, .ofText enum.name),
     ("enumerators".toList, .array (enum.enumerators.map Enumerator.toJson))]

/-- Reads an enum. -/
def Enum.ofJson? (json : Json) : Option Enum :=
  match json.record? ["name".toList, "enumerators".toList] with
  | some [name, enumerators] => do
      return { name := ← name.text?, enumerators := ← enumerators.listOf? Enumerator.ofJson? }
  | _ => none

/-- A macro as a record. -/
def Define.toJson (define : Define) : Json :=
  .ofFields [("name".toList, .ofText define.name), ("value".toList, .ofText define.value)]

/-- Reads a macro. -/
def Define.ofJson? (json : Json) : Option Define :=
  match json.record? ["name".toList, "value".toList] with
  | some [name, value] => do return { name := ← name.text?, value := ← value.text? }
  | _ => none

/-- A header as a record. -/
def Header.toJson (header : Header) : Json :=
  .ofFields
    [("source".toList, .ofText header.source),
     ("structs".toList, .array (header.structs.map Block.toJson)),
     ("enums".toList, .array (header.enums.map Enum.toJson)),
     ("defines".toList, .array (header.defines.map Define.toJson))]

/-- Reads a header. -/
def Header.ofJson? (json : Json) : Option Header :=
  match json.record?
      ["source".toList, "structs".toList, "enums".toList, "defines".toList] with
  | some [source, structs, enums, defines] => do
      return {
        source := ← source.text?
        structs := ← structs.listOf? Block.ofJson?
        enums := ← enums.listOf? Enum.ofJson?
        defines := ← defines.listOf? Define.ofJson? }
  | _ => none

/-- The JSON text of a header. -/
def Header.write (layout : Json.Layout) (header : Header) : Text :=
  header.toJson.write layout

/-- The header that a JSON text denotes. -/
def Header.read? (text : Text) : Option Header :=
  (Json.read? text).bind Header.ofJson?

/-- A split type as a record. -/
def ArrayType.toJson (type : ArrayType) : Json :=
  .ofFields [("count".toList, .ofInt type.count), ("base_type".toList, .ofText type.base)]

end CHeader
