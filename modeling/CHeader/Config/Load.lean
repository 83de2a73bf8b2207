import CHeader.Config.Toml
import CHeader.Files

/-!
# Loading settings

Settings come from a global file and from a project file, which overrides the global one.  A file
at a default location that is missing or unusable counts as empty settings; a project file that
the user asked for has to be there and to be usable.  Loading sees the files and their format only
through the few questions that it asks.
-/

namespace CHeader

/-- The reasons why a settings file cannot be used. -/
inductive ConfigError where
  | unreadable (path : Path) (cause : FileError)
  | unparsable (path : Path)
  /-- The working directory, where the project file is looked for, has no path. -/
  | noWorkingDirectory (cause : FileError)
  deriving DecidableEq, Repr

namespace ConfigError

/-- The one-line message. -/
def message : ConfigError → String
  | unreadable path _ => "failed to read config file: " ++ String.ofList path.shown
  | unparsable path => "failed to parse config file: " ++ String.ofList path.shown
  | noWorkingDirectory cause => cause.message

/-- The wording of the cause, if there is one behind the message. -/
def cause? : ConfigError → Option String
  | unreadable _ cause => some cause.message
  | unparsable _ => some "invalid TOML"
  | noWorkingDirectory _ => none

end ConfigError

/-- What loading asks: whether a path leads anywhere, which text stands there, and which settings a
text describes. -/
structure ConfigSource where
  /-- Whether a path leads anywhere. -/
  contains : Path → Bool
  /-- The text of the file that a path leads to. -/
  read : Path → Except FileError Text
  /-- The settings that a text describes, if it describes any. -/
  parse? : Text → Option Config
  /-- What can be read is there. -/
  contains_of_read : ∀ path text, read path = .ok text → contains path = true

namespace ConfigSource

/-- The settings in a file. -/
def load (source : ConfigSource) (path : Path) : Except ConfigError Config :=
  match source.read path with
  | .error cause => .error (.unreadable path cause)
  | .ok text =>
      match source.parse? text with
      | some config => .ok config
      | none => .error (.unparsable path)

/-- The settings in a file, or empty settings if it is missing or cannot be used. -/
def loadOrEmpty (source : ConfigSource) (path : Path) : Config :=
  if source.contains path then
    match source.load path with
    | .ok config => config
    | .error _ => .empty
  else .empty

/-- Settings that are overridden by those of a file at a default location, if there is one. -/
def overlay (source : ConfigSource) (config : Config) (path : Path) : Config :=
  if source.contains path then config.merge (source.loadOrEmpty path) else config

/-- The settings of the global file, if one is named. -/
def globalLayer (source : ConfigSource) : Option Path → Config
  | none => .empty
  | some path => source.overlay .empty path

/-- The settings of the global file, overridden by those of the project file, which has to be usable
if the user asked for it. -/
def loadAll (source : ConfigSource) (globalPath : Option Path) (projectPath : Path)
    (explicit : Bool) : Except ConfigError Config :=
  let config := source.globalLayer globalPath
  if explicit then (source.load projectPath).map config.merge
  else .ok (source.overlay config projectPath)

end ConfigSource

/-- A file tree as a source of settings, which are written in TOML. -/
def FileSystem.configSource (files : FileSystem) : ConfigSource where
  contains := files.contains
  read := files.read
  parse? := Config.ofToml?
  contains_of_read _ _ := FileSystem.contains_of_read

namespace Config

/-- The settings in a file. -/
def load (files : FileSystem) (path : Path) : Except ConfigError Config :=
  files.configSource.load path

/-- The settings of the global file, overridden by those of the project file. -/
def loadAll (files : FileSystem) (globalPath : Option Path) (projectPath : Path)
    (explicit : Bool) : Except ConfigError Config :=
  files.configSource.loadAll globalPath projectPath explicit

end Config
end CHeader
