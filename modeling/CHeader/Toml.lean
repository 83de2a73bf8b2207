import CHeader.Text

/-!
# TOML documents

A TOML document is a table of values.  It is read as a list of statements, each of which opens a
table, opens the next table of an array, or assigns a value to a key.  Carrying out the statements
in order builds the table; a statement that would define something twice is refused.
-/

namespace CHeader
namespace Toml

/-- A TOML value.  Floating-point numbers and dates are recognized, but not evaluated. -/
inductive Value where
  | text (content : Text)
  | integer (n : Int)
  | boolean (truth : Bool)
  | float
  | date
  | array (items : List Value)
  | table (entries : List (Text × Value))
  deriving Repr

/-- A statement of a document. -/
inductive Statement where
  /-- `[PATH]` opens a table. -/
  | openTable (path : List Text)
  /-- `[[PATH]]` opens a new table at the end of an array. -/
  | openElement (path : List Text)
  /-- `PATH = VALUE` sets a key of the open table. -/
  | assign (path : List Text) (value : Value)
  deriving Repr

/-- What a key holds while a document is built. -/
inductive Item where
  | value (value : Value)
  /-- A table.  It is implicit until a header names it, and dotted if keys with dots made it. -/
  | table (implicit dotted : Bool) (entries : List (Text × Item))
  /-- An array of tables, the open one first. -/
  | tables (elements : List (List (Text × Item)))
  deriving Repr

/-- The entries of a table that is being built. -/
abbrev Entries := List (Text × Item)

namespace Entries

/-- Sets a key, in place if it is there. -/
def set (key : Text) (item : Item) : Entries → Entries
  | [] => [(key, item)]
  | (other, held) :: entries =>
      if other = key then (key, item) :: entries else (other, held) :: set key item entries

/-- Changes the table at a path of headers, making the tables on the way. -/
def modify (change : Entries → Option Entries) : List Text → Entries → Option Entries
  | [], entries => change entries
  | key :: path, entries =>
      match entries.lookup key with
      | none => (modify change path []).map fun inner => set key (.table true false inner) entries
      | some (.table implicit dotted inner) =>
          (modify change path inner).map fun inner => set key (.table implicit dotted inner) entries
      | some (.tables (element :: elements)) =>
          (modify change path element).map fun element =>
            set key (.tables (element :: elements)) entries
      | some _ => none

/-- Assigns a value to a key with dots, making the tables on the way.  The way may lead through
implicit tables and through the open element of an array, but the value has to go into a table that
keys with dots made; `mayAssign` says whether the table at hand may take a value itself. -/
def assign (value : Value) : Bool → List Text → Entries → Option Entries
  | _, [], _ => none
  | mayAssign, [key], entries =>
      if mayAssign && (entries.lookup key).isNone then some (set key (.value value) entries)
      else none
  | _, key :: path, entries =>
      match entries.lookup key with
      | none =>
          (assign value true path []).map fun inner => set key (.table true true inner) entries
      | some (.table true dotted inner) =>
          (assign value dotted path inner).map fun inner =>
            set key (.table true dotted inner) entries
      | some (.tables (element :: elements)) =>
          (assign value false path element).map fun element =>
            set key (.tables (element :: elements)) entries
      | some _ => none

/-- Opens a table for its header. -/
def openTable (key : Text) (entries : Entries) : Option Entries :=
  match entries.lookup key with
  | none => some (set key (.table false false []) entries)
  | some (.table true false inner) => some (set key (.table false false inner) entries)
  | some _ => none

/-- Opens a new element of an array of tables. -/
def openElement (key : Text) (entries : Entries) : Option Entries :=
  match entries.lookup key with
  | none => some (set key (.tables [[]]) entries)
  | some (.tables elements) => some (set key (.tables ([] :: elements)) entries)
  | some _ => none

end Entries

mutual

/-- The value that an item amounts to. -/
def Item.finish : Item → Value
  | .value value => value
  | .table _ _ entries => .table (finishEntries entries)
  | .tables elements => .array (finishElements elements).reverse

/-- The values of entries. -/
def finishEntries : List (Text × Item) → List (Text × Value)
  | [] => []
  | (key, item) :: entries => (key, item.finish) :: finishEntries entries

/-- The values of the elements of an array of tables. -/
def finishElements : List (List (Text × Item)) → List Value
  | [] => []
  | element :: elements => .table (finishEntries element) :: finishElements elements

end

/-- Carries out statements; `path` leads to the open table. -/
def build (path : List Text) (root : Entries) : List Statement → Option Entries
  | [] => some root
  | .openTable names :: statements =>
      match names.getLast? with
      | none => none
      | some key => do
          let root ← Entries.modify (Entries.openTable key) names.dropLast root
          build names root statements
  | .openElement names :: statements =>
      match names.getLast? with
      | none => none
      | some key => do
          let root ← Entries.modify (Entries.openElement key) names.dropLast root
          build names root statements
  | .assign names value :: statements => do
      let root ← Entries.modify (Entries.assign value true names) path root
      build path root statements

/-- The table that statements define. -/
def ofStatements? (statements : List Statement) : Option Value :=
  (build [] [] statements).map fun root => .table (finishEntries root)

end Toml
end CHeader
