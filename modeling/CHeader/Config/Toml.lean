import CHeader.Config
import CHeader.Toml.Reader

/-!
# Settings in TOML

Settings are written as the tables `constants`, `filter` and `output`, each of which may be left
out; other keys are ignored.  The tables with fixed keys may also be written as arrays of the
values of their keys in order.  A value of the wrong type makes the whole document unusable.
-/

namespace CHeader
namespace Toml

/-- The text of a string. -/
def Value.text? : Value → Option Text
  | .text content => some content
  | _ => none

/-- The truth value of a boolean. -/
def Value.boolean? : Value → Option Bool
  | .boolean truth => some truth
  | _ => none

/-- The texts of an array of strings. -/
def Value.texts? : Value → Option (List Text)
  | .array items => items.mapM Value.text?
  | _ => none

/-- The constants of a table of integers. -/
def Value.constants? : Value → Option Constants
  | .table entries =>
      (entries.mapM fun (entry : Text × Value) =>
        match entry.2 with
        | .integer n => (Constants.value? n).map fun value => (entry.1, value)
        | _ => none).map Constants.ofList
  | _ => none

/-- The values of the given keys of a table, or of an array that lists them in order.  A date counts
as a table without them. -/
def Value.fields? (keys : List Text) : Value → Option (List (Option Value))
  | .table entries => some (keys.map fun key => entries.lookup key)
  | .array items => some ((items.map some ++ keys.map fun _ => none).take keys.length)
  | .date => some (keys.map fun _ => none)
  | _ => none

/-- Reads a value if there is one. -/
def optional? {α : Type} (read : Value → Option α) : Option Value → Option (Option α)
  | none => some none
  | some value => (read value).map some

end Toml

namespace Config

/-- Reads the table of filters into settings. -/
def readFilter? (value : Toml.Value) : Option Config :=
  match value.fields? ["include_types".toList, "exclude_types".toList] with
  | some [included, excluded] => do
      return { empty with
        included := ← Toml.optional? Toml.Value.texts? included
        excluded := ← Toml.optional? Toml.Value.texts? excluded }
  | _ => none

/-- Reads the table of output settings into settings. -/
def readOutput? (value : Toml.Value) : Option Config :=
  match value.fields? ["pretty".toList] with
  | some [pretty] => do
      return { empty with pretty := ← Toml.optional? Toml.Value.boolean? pretty }
  | _ => none

/-- Reads the table of constants into settings. -/
def readConstants? (value : Toml.Value) : Option Config :=
  value.constants?.map fun constants => { empty with constants }

/-- The settings of a document. -/
def ofToml? (text : Text) : Option Config := do
  let document ← Toml.read? text
  match document.fields? ["constants".toList, "filter".toList, "output".toList] with
  | some [constants, filter, output] => do
      let constants ← Toml.optional? readConstants? constants
      let filter ← Toml.optional? readFilter? filter
      let output ← Toml.optional? readOutput? output
      return ((constants.getD empty).merge (filter.getD empty)).merge (output.getD empty)
  | _ => none

end Config
end CHeader
