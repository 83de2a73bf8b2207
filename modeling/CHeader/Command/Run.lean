import CHeader.Command.Arguments
import CHeader.Command.Log

/-!
# Running the tool

A run takes its arguments and its surroundings and yields an exit code, the standard output and
the standard error output.  Wrong usage has exit code 2, any other failure has exit code 1 and an
empty standard output.
-/

namespace CHeader

/-- Texts that are generated from the description of the arguments. -/
structure GeneratedTexts where
  /-- What is wrong with arguments. -/
  usage : List Text → String
  /-- Help on a topic. -/
  help : Arguments.HelpTopic → Text
  /-- The script by which a shell completes arguments. -/
  completions : Shell → Text

/-- What a run depends on besides its arguments. -/
structure Surroundings where
  /-- The file tree. -/
  files : FileSystem
  /-- The home directory of the user. -/
  home : Option Path
  /-- The settings file that the environment names. -/
  configVariable : Option Path
  /-- The generated texts, which decide nothing. -/
  generated : GeneratedTexts := ⟨fun _ => "", fun _ => [], fun _ => []⟩

/-- What a run yields. -/
structure Outcome where
  /-- The exit code. -/
  exitCode : Nat
  /-- The standard output. -/
  output : Text
  /-- The standard error output. -/
  errors : String
  deriving DecidableEq, Repr

namespace Surroundings

/-- The global settings file in the home directory. -/
def globalConfigPath (around : Surroundings) : Option Path :=
  around.home.map fun home =>
    (home.join (.ofText ".cextract".toList)).join (.ofText "config.toml".toList)

/-- The settings file of the project: the one that is asked for, or else the one in the working
directory. -/
def projectConfigPath (around : Surroundings) (invocation : Invocation) :
    Except ConfigError Path :=
  match invocation.config with
  | some path => .ok path
  | none =>
      match around.files.workingPath with
      | .ok path => .ok (path.join (.ofText "cextract.toml".toList))
      | .error cause => .error (.noWorkingDirectory cause)

/-- The settings of a run. -/
def config (around : Surroundings) (invocation : Invocation) : Except ConfigError Config := do
  let projectPath ← around.projectConfigPath invocation
  Config.loadAll around.files around.globalConfigPath projectPath invocation.config.isSome

/-- The log of loading the settings of a run. -/
def configLog (around : Surroundings) (invocation : Invocation) : List LogEntry :=
  match around.projectConfigPath invocation with
  | .error _ => []
  | .ok projectPath =>
      Config.loadLog around.files around.globalConfigPath projectPath invocation.config.isSome

end Surroundings

/-- What is printed of a document. -/
def Document.print (generated : GeneratedTexts) (layout : Json.Layout) : Document → Text
  | json value => value.write layout ++ ['\n']
  | script shell => generated.completions shell

namespace Invocation

/-- The outcome of a failure, given the log so far. -/
def failure (invocation : Invocation) (log : List LogEntry) (report : Report) : Outcome :=
  { exitCode := 1
    output := []
    errors :=
      renderLog invocation.verbose invocation.color log ++ report.render invocation.color }

/-- Carries out a command in its surroundings. -/
def run (around : Surroundings) (invocation : Invocation) : Outcome :=
  let configLog := around.configLog invocation
  match around.config invocation with
  | .error error => invocation.failure configLog error.report
  | .ok config =>
      let log := configLog ++ invocation.command.log around.files config
      match invocation.command.result around.files config with
      | .error error => invocation.failure log error.report
      | .ok document =>
          { exitCode := 0
            output := document.print around.generated config.layout
            errors := renderLog invocation.verbose invocation.color log }

end Invocation

/-- What is printed for the version. -/
def versionText : String :=
  "cextract 0.1.0\n"

/-- Runs the tool with arguments. -/
def runArguments (around : Surroundings) (arguments : List Text) : Outcome :=
  match Arguments.read around.configVariable arguments with
  | .error .usage =>
      { exitCode := 2, output := [], errors := around.generated.usage arguments }
  | .error .version => { exitCode := 0, output := versionText.toList, errors := "" }
  | .error (.help topic) =>
      { exitCode := 0, output := around.generated.help topic, errors := "" }
  | .ok invocation => invocation.run around

end CHeader
