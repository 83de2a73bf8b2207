import CHeader.Command

/-!
# The log of a command

While a command runs it logs what it has done so far.  The log of a command that fails ends where
the failure arises.
-/

namespace CHeader

/-- How important a log entry is. -/
inductive LogLevel where
  | debug
  | info
  | warn
  deriving DecidableEq, Repr

/-- The name of a level in five columns. -/
def LogLevel.label : LogLevel → String
  | debug => "DEBUG"
  | info => " INFO"
  | warn => " WARN"

/-- The terminal color of a level. -/
def LogLevel.colorCode : LogLevel → String
  | debug => "34"
  | info => "32"
  | warn => "33"

/-- A line of the log. -/
structure LogEntry where
  /-- The importance. -/
  level : LogLevel
  /-- The text. -/
  message : String
  deriving DecidableEq, Repr

namespace LogEntry

/-- An entry for those who want details. -/
def debug (message : String) : LogEntry :=
  ⟨.debug, message⟩

/-- An entry for everyone. -/
def info (message : String) : LogEntry :=
  ⟨.info, message⟩

/-- An entry about something unusual. -/
def warn (message : String) : LogEntry :=
  ⟨.warn, message⟩

/-- A character of a message as it is shown: those that can start a terminal sequence are shown by
their codes. -/
def shownChar (c : Char) : Text :=
  if c = '\x1b' then "\\x1b".toList
  else if c = '\x07' then "\\x07".toList
  else if c = '\x08' then "\\x08".toList
  else if c = '\x0c' then "\\x0c".toList
  else if c = '\x7f' then "\\x7f".toList
  else if '\x80' ≤ c && c ≤ '\x9f' then
    "\\u".toList ++ '{' :: (Nat.toDigits 16 c.toNat ++ ['}'])
  else [c]

/-- A message as it is shown. -/
def shown (message : String) : String :=
  String.ofList (message.toList.flatMap shownChar)

/-- An entry as a line, with its level in color or plain. -/
def render (color : Bool) (entry : LogEntry) : String :=
  let label := entry.level.label
  let level :=
    if color then "\x1b[" ++ entry.level.colorCode ++ "m" ++ label ++ "\x1b[0m" else label
  level ++ " " ++ shown entry.message ++ "\n"

end LogEntry

/-- The lines of a log; entries with details are shown on demand only. -/
def renderLog (verbose color : Bool) (entries : List LogEntry) : String :=
  let visible := entries.filter fun entry => verbose || entry.level != .debug
  String.join (visible.map (LogEntry.render color))

namespace Config

/-- The log of a file at a default location. -/
def fileLog (files : FileSystem) (role : String) (path : Path) : List LogEntry :=
  if files.contains path then
    .debug ("loading " ++ role ++ " config from " ++ String.ofList path.shown) ::
      match load files path with
      | .ok _ => []
      | .error error =>
          [.warn ("Failed to load config from " ++ String.ofList path.shown ++ ": " ++
            ": ".intercalate (error.message :: error.cause?.toList))]
  else []

/-- The log of loading settings. -/
def loadLog (files : FileSystem) (globalPath : Option Path) (projectPath : Path)
    (explicit : Bool) : List LogEntry :=
  globalPath.toList.flatMap (fileLog files "global") ++
    if explicit then [] else fileLog files "project" projectPath

end Config

namespace Header

/-- The number of items and what they are called. -/
def counted (n : Nat) (what : String) : String :=
  toString n ++ " " ++ what

/-- The entry for the blocks of one kind. -/
def blockLog (kind : BlockKind) (text : Text) : LogEntry :=
  .debug ("found " ++ counted (Block.ofHeader kind text).length
    (String.ofList kind.keyword ++ " block(s)"))

/-- The entries for the enums of some blocks, up to the first that does not resolve. -/
def resolveLog : List Block → List LogEntry
  | [] => []
  | block :: blocks =>
      match Enum.resolve block.text with
      | .error _ => []
      | .ok enum =>
          .debug ("resolved enum " ++ String.ofList enum.name ++ " with " ++
            counted enum.enumerators.length "enumerator(s)") :: resolveLog blocks

/-- The entries for the enums of a header. -/
def enumsLog (filter : TypeFilter) (text : Text) : List LogEntry :=
  blockLog .enum text :: resolveLog (blocksOf .enum filter text)

/-- The entries for the macros of a header. -/
def definesLog (text : Text) : List LogEntry :=
  ((Define.lines text).filter Define.isContinued).map fun define =>
    .debug ("skipping multi-line #define " ++ String.ofList define.name)

/-- What a header holds. -/
def summary (path : Path) (header : Header) : String :=
  "parsed " ++ String.ofList path.shown ++ ": " ++ counted header.structs.length "structs, " ++
    counted header.enums.length "enums, " ++ counted header.defines.length "defines"

/-- The log of parsing a header. -/
def parseLog (filter : TypeFilter) (path : Path) (text : Text) : List LogEntry :=
  blockLog .struct text :: enumsLog filter text ++
    match parse filter path.shown text with
    | .error _ => []
    | .ok header => definesLog text ++ [.debug (header.summary path)]

/-- The log of loading headers, up to the first that cannot be loaded; `announce` is added for each
header that can. -/
def loadLog (files : FileSystem) (filter : TypeFilter)
    (announce : Path → Header → List LogEntry) : List Path → List LogEntry
  | [] => []
  | path :: paths =>
      match files.read path with
      | .error _ => []
      | .ok text =>
          parseLog filter path text ++
            match parse filter path.shown text with
            | .error _ => []
            | .ok header => announce path header ++ loadLog files filter announce paths

end Header

namespace Command

/-- The entry for the number of declarations of a header. -/
def countLog (path : Path) (n : Nat) (what : String) : LogEntry :=
  .info (String.ofList path.shown ++ ": " ++ Header.counted n what)

/-- The log of expanding patterns, up to the first that stands for no file. -/
def expansionLog (files : FileSystem) : List Text → List LogEntry
  | [] => []
  | pattern :: patterns =>
      match PathPattern.parse pattern with
      | .error _ => []
      | .ok parsed =>
          (parsed.faults files).map (fun fault => .warn ("glob error: " ++ fault.message)) ++
            if (parsed.expand files).isEmpty then [] else expansionLog files patterns

/-- The log of a command. -/
def log (files : FileSystem) (config : Config) : Command → List LogEntry
  | parse patterns =>
      expansionLog files patterns ++
        match filesOfAll files patterns with
        | .error _ => []
        | .ok paths =>
            Header.loadLog files config.filter
              (fun path header => [.info (header.summary path)]) paths
  | structs path =>
      match files.read path with
      | .error _ => []
      | .ok text =>
          [Header.blockLog .struct text,
           countLog path (Header.structsOf config.filter text).length "struct(s)"]
  | enums path =>
      match files.read path with
      | .error _ => []
      | .ok text =>
          Header.enumsLog config.filter text ++
            match Header.enumsOf config.filter text with
            | .error _ => []
            | .ok found => [countLog path found.length "enum(s)"]
  | defines path =>
      match files.read path with
      | .error _ => []
      | .ok text =>
          Header.definesLog text ++ [countLog path (Define.ofHeader text).length "define(s)"]
  | splitType declaration paths flags =>
      Header.loadLog files config.filter (fun _ _ => []) paths ++
        match paths.mapM (loadHeader files config), flags.mapM flagConstant with
        | .ok headers, .ok flags =>
            [.debug ("resolving `" ++ String.ofList declaration ++ "` with " ++
              Header.counted (layered config headers flags).size "constant(s)")]
        | _, _ => []
  | completions _ => []

end Command
end CHeader
