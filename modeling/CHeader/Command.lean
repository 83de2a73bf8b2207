import CHeader.Config.Load
import CHeader.Header.Json
import CHeader.Header.Load
import CHeader.PathPattern.Expand

/-!
# Commands

A command reads headers and prints JSON, or prints a script for a shell.  Its result is all of its
output or one error; nothing is printed of a command that fails.
-/

namespace CHeader

/-- The shells that can complete arguments. -/
inductive Shell where
  | bash
  | elvish
  | fish
  | powershell
  | zsh
  deriving DecidableEq, Repr

/-- What the tool is asked to do. -/
inductive Command where
  /-- Print everything that the headers hold which match some patterns. -/
  | parse (patterns : List Text)
  /-- Print the struct blocks of a header. -/
  | structs (path : Path)
  /-- Print the enums of a header. -/
  | enums (path : Path)
  /-- Print the macros of a header. -/
  | defines (path : Path)
  /-- Split a declared type with the constants of some headers and of some `NAME=VALUE` flags. -/
  | splitType (declaration : Text) (headers : List Path) (flags : List Text)
  /-- Print the script by which a shell completes arguments. -/
  | completions (shell : Shell)
  deriving DecidableEq, Repr

/-- What a command prints. -/
inductive Document where
  /-- A value. -/
  | json (value : Json)
  /-- The script by which a shell completes arguments. -/
  | script (shell : Shell)
  deriving Repr

/-- The reasons why a command fails. -/
inductive CommandError where
  | header (cause : HeaderError)
  | pattern (cause : PatternError)
  | noMatch (pattern : Text)
  | flagWithoutValue (flag : Text)
  | flagNotInteger (flag : Text)
  | declaration (cause : ExtractError)
  /-- The source of a header is a path without a text, which JSON cannot hold. -/
  | sourceWithoutText
  deriving DecidableEq, Repr

/-- The report of a failed command. -/
def CommandError.report : CommandError → Report
  | header cause => cause.report
  | pattern cause => { message := cause.message }
  | noMatch text =>
      { message :=
          "no header files match `" ++ String.ofList text ++ "`\nhelp: " ++
            "Check the path, or quote glob patterns so the shell does not expand them" }
  | flagWithoutValue flag =>
      { message :=
          "invalid --define `" ++ String.ofList flag ++ "`: expected NAME=VALUE" }
  | flagNotInteger flag =>
      { message :=
          "invalid --define `" ++ String.ofList flag ++ "`: value is not an integer" }
  | declaration cause => cause.report
  | sourceWithoutText =>
      { message := "failed to serialize output"
        context := ["path contains invalid UTF-8 characters"] }

/-- The report of settings that cannot be used. -/
def ConfigError.report (error : ConfigError) : Report :=
  let suggestions := ["Fix the file or point --config (CEXTRACT_CONFIG) at a valid one"]
  match error.cause? with
  | none => { message := error.message, suggestions }
  | some cause =>
      { message := "invalid configuration", context := [error.message, cause], suggestions }

namespace Command

/-- The files that a pattern stands for, at least one. -/
def filesOf (files : FileSystem) (pattern : Text) : Except CommandError (List Path) := do
  let parsed ← (PathPattern.parse pattern).mapError .pattern
  match parsed.expand files with
  | [] => .error (.noMatch pattern)
  | path :: paths => .ok (path :: paths)

/-- The files that patterns stand for, in the order of the patterns. -/
def filesOfAll (files : FileSystem) (patterns : List Text) : Except CommandError (List Path) :=
  (patterns.mapM (filesOf files)).map List.flatten

/-- Loads a header with the filter of the settings. -/
def loadHeader (files : FileSystem) (config : Config) (path : Path) :
    Except CommandError Header :=
  (Header.load files config.filter path).mapError .header

/-- Reads the text of a header. -/
def readHeader (files : FileSystem) (path : Path) : Except CommandError Text :=
  (Header.readText files path).mapError .header

/-- The merge of headers, with the source of the first. -/
def mergeAll : List Header → Header
  | [] => .empty
  | header :: headers => headers.foldl Header.merge header

/-- The constant that a flag defines. -/
def flagConstant (flag : Text) : Except CommandError (Text × Int64) :=
  match Text.cut? '=' flag with
  | none => .error (.flagWithoutValue flag)
  | some (name, text) =>
      match (IntLiteral.parse? text).bind Constants.value? with
      | none => .error (.flagNotInteger flag)
      | some value => .ok (Text.trim name, value)

/-- The constants for a declared type: those of the settings, overridden by the headers in turn,
overridden by the flags. -/
def layered (config : Config) (headers : List Header) (flags : List (Text × Int64)) : Constants :=
  (headers.foldl (fun table header => table.extend header.constants) config.constants).extend
    (Constants.ofList flags)

/-- The JSON of the merge of headers, whose source is the first path. -/
def mergedJson (paths : List Path) (headers : List Header) : Except CommandError Json :=
  match paths with
  | [] => .ok (mergeAll headers).toJson
  | path :: _ =>
      match path.text? with
      | some source => .ok { mergeAll headers with source }.toJson
      | none => .error .sourceWithoutText

/-- What a command prints. -/
def result (files : FileSystem) (config : Config) : Command → Except CommandError Document
  | parse patterns => do
      let paths ← filesOfAll files patterns
      let headers ← paths.mapM (loadHeader files config)
      return .json (← mergedJson paths headers)
  | structs path => do
      let text ← readHeader files path
      return .json (.array ((Header.structsOf config.filter text).map Block.toJson))
  | enums path => do
      let text ← readHeader files path
      let enums ← (Header.enumsOf config.filter text).mapError fun cause =>
        .header (.unparsable path cause)
      return .json (.array (enums.map Enum.toJson))
  | defines path => do
      let text ← readHeader files path
      return .json (.array ((Define.ofHeader text).map Define.toJson))
  | splitType declaration paths flags => do
      let headers ← paths.mapM (loadHeader files config)
      let flags ← flags.mapM flagConstant
      let type ← (ArrayType.split declaration (layered config headers flags)).mapError .declaration
      return .json type.toJson
  | completions shell => .ok (.script shell)

end Command
end CHeader
