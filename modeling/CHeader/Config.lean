import CHeader.Header.Parse
import CHeader.Json.Printer

/-!
# Settings

Settings hold constants for array counts, the tags to keep and to drop, and the layout of the
output.  Each of the last three may be left open.  Settings are merged field by field; the later
one wins where it says something.
-/

namespace CHeader

/-- The settings of an extraction. -/
structure Config where
  /-- Constants for array counts. -/
  constants : Constants
  /-- The tags to keep; all if this is open or empty. -/
  included : Option (List Text)
  /-- The tags to drop. -/
  excluded : Option (List Text)
  /-- Whether output is spread over lines; it is if this is open. -/
  pretty : Option Bool
  deriving DecidableEq

namespace Config

/-- Settings that leave everything open. -/
def empty : Config :=
  ⟨.empty, none, none, none⟩

instance : Inhabited Config := ⟨empty⟩

/-- Settings that are overridden by others where those say something. -/
def merge (config other : Config) : Config :=
  { constants := config.constants.extend other.constants
    included := other.included <|> config.included
    excluded := other.excluded <|> config.excluded
    pretty := other.pretty <|> config.pretty }

/-- Whether output is spread over lines. -/
def isPretty (config : Config) : Bool :=
  config.pretty.getD true

/-- The layout of the output. -/
def layout (config : Config) : Json.Layout :=
  if config.isPretty then .pretty else .compact

/-- The filter on tags. -/
def filter (config : Config) : TypeFilter :=
  { included := config.included.getD [], excluded := config.excluded.getD [] }

end Config
end CHeader
