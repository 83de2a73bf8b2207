import CHeader.Command.Run

/-!
# What a run reads

A run depends on few parts of the file tree.  They are listed before the run, as paths together
with the number of levels of entries below them that matter, so that only they have to be read.
-/

namespace CHeader

/-- A path and the number of levels of entries below it that matter. -/
structure ReadRequest where
  /-- The path. -/
  path : Path
  /-- The number of levels. -/
  depth : Nat
  deriving DecidableEq, Repr

namespace PathPattern

/-- The names at the front of components, and the components behind them. -/
def splitNames : List PatternComponent → List Path × List PatternComponent
  | .name text :: later => ((.ofText text :: (splitNames later).1), (splitNames later).2)
  | components => ([], components)

/-- Whether a wildcard can stand for the parent directory. -/
def reachesParent (components : List PatternComponent) : Bool :=
  components.any fun component => component.matchName Path.parent

/-- What the expansion of a pattern reads.  Where any number of directories may be passed, no level
lies deeper than a path can reach. -/
def reads (pattern : PathPattern) : List ReadRequest :=
  let (names, later) := splitNames pattern.components
  let base := List.intercalate [Path.slash] names
  let path : Path :=
    if pattern.absolute then Path.slash :: base else if base.isEmpty then Path.here else base
  let depth :=
    if later.contains .anyDirectories then FileSystem.maxPathBytes else later.length
  if reachesParent later then [⟨path, depth⟩, ⟨path.join Path.parent, depth⟩]
  else [⟨path, depth⟩]

end PathPattern

/-- What a command reads. -/
def Command.reads : Command → List ReadRequest
  | parse patterns => patterns.flatMap fun pattern =>
      match PathPattern.parse pattern with
      | .ok parsed => parsed.reads
      | .error _ => []
  | structs path => [⟨path, 0⟩]
  | enums path => [⟨path, 0⟩]
  | defines path => [⟨path, 0⟩]
  | splitType _ paths _ => paths.map fun path => ⟨path, 0⟩
  | completions _ => []

/-- What a run reads. -/
def Invocation.reads (around : Surroundings) (invocation : Invocation) : List ReadRequest :=
  let projectPath := (around.projectConfigPath invocation).toOption
  let settings := around.globalConfigPath.toList ++ projectPath.toList
  settings.map (⟨·, 0⟩) ++ invocation.command.reads

/-- What a run with arguments reads. -/
def argumentReads (around : Surroundings) (arguments : List Text) : List ReadRequest :=
  match Arguments.read around.configVariable arguments with
  | .error _ => []
  | .ok invocation => invocation.reads around

end CHeader
