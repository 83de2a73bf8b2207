import CHeader.Command.Reads

/-!
# The command line tool

The tool records the parts of the file tree that its arguments ask for, runs on them, and prints the
outcome.  What cannot be read is recorded together with the reason.  Names that are no text cannot
be recorded, since the runtime hands out names as strings.
-/

namespace CHeader

/-- The failure of an operation on files. -/
def FileError.ofIO : IO.Error → FileError
  | .noFileOrDirectory .. => .notFound
  | .permissionDenied .. => .permissionDenied
  | error => .other error.toString

/-- The names on a path that starts at the root. -/
def namesOf (path : String) : List Path :=
  (Path.ofText path.toList).names.filter fun name => !name.isEmpty

/-- A tree that is being recorded, and the places in it that are done, each with the number of
levels below it. -/
structure Recording where
  tree : FileNode
  done : List (List Path × Nat)

namespace Recording

/-- Changes the tree. -/
def modify (recording : Recording) (change : FileNode → FileNode) : Recording :=
  { recording with tree := change recording.tree }

/-- Notes a place, unless as many levels below it are done already. -/
def begin? (recording : Recording) (names : List Path) (depth : Nat) : Option Recording :=
  if recording.done.any fun place => place.1 == names && depth ≤ place.2 then none
  else some { recording with done := (names, depth) :: recording.done }

/-- Records a directory entry with as many levels below it as asked for, and for a link also what
the link leads to. -/
def recordEntry (recording : Recording) (depth : Nat) (entry : IO.FS.DirEntry) : IO Recording := do
  let outer := namesOf entry.root.toString
  try
    let place ← IO.FS.realPath entry.path
    let names := namesOf place.toString
    let lexical := outer ++ [Path.ofText entry.fileName.toList]
    let isLink := (← entry.path.symlinkMetadata).type == .symlink
    let recording :=
      if isLink then recording.modify (·.put (.link (.ofText place.toString.toList)) lexical)
      else recording
    match recording.begin? names depth with
    | none => return recording
    | some recording =>
        if ← place.isDir then
          match depth with
          | 0 => return recording.modify (·.putDirectory names)
          | depth + 1 =>
              try
                let entries ← place.readDir
                entries.foldlM (fun recording inner => recording.recordEntry depth inner)
                  (recording.modify (·.putDirectory names))
              catch error =>
                let refusals := { listing := some (.ofIO error) }
                return recording.modify (·.putDirectory names refusals)
        else
          let content ← try pure (.ok (← IO.FS.readBinFile place))
            catch error => pure (.error (FileError.ofIO error))
          let regular := (← place.metadata).type == .file
          return recording.modify (·.put (.file content regular) names)
  catch error =>
    match FileError.ofIO error with
    | .permissionDenied =>
        let refusals := { passage := some .permissionDenied }
        return recording.modify (·.putDirectory outer refusals)
    | _ => return recording
termination_by depth

/-- Records what names lead to from a directory, with all places on the way. -/
def recordNames (recording : Recording) (depth : Nat) (directory : String) :
    List Path → IO Recording
  | [] => return recording
  | name :: names => do
      let entry : IO.FS.DirEntry := ⟨⟨directory⟩, String.ofList name.shown⟩
      let recording ← recording.recordEntry (if names.isEmpty then depth else 0) entry
      match ← (IO.FS.realPath entry.path).toBaseIO with
      | .ok next => recording.recordNames depth next.toString names
      | .error _ => return recording

end Recording

/-- The texts of the argument parser, in short. -/
def shortTexts : GeneratedTexts :=
  let usage :=
    "usage: cextract [-v] [--no-color] [--config FILE] COMMAND\n" ++
    "  parse PATTERN...\n" ++
    "  structs HEADER\n" ++
    "  enums HEADER\n" ++
    "  defines HEADER\n" ++
    "  split-type DECL [--header HEADER]... [-D NAME=VALUE]...\n"
  { usage := fun _ => usage
    help := fun _ => usage.toList
    completions := fun _ => [] }

/-- Runs the tool with arguments. -/
def runTool (arguments : List String) : IO UInt32 := do
  let arguments := arguments.map String.toList
  let directory := (← IO.currentDir).toString
  let workingDirectory := namesOf directory
  let around : Surroundings := {
    files := { root := .directory [], workingDirectory }
    home := (← IO.getEnv "HOME").map fun home => .ofText home.toList
    configVariable := (← IO.getEnv "CEXTRACT_CONFIG").map fun path => .ofText path.toList
    generated := shortTexts }
  let recording : Recording := ⟨(FileNode.directory []).putDirectory workingDirectory, []⟩
  let recording ← (argumentReads around arguments).foldlM
    (fun recording request =>
      let start := if request.path.isAbsolute then "/" else directory
      recording.recordNames request.depth start request.path.names)
    recording
  let files : FileSystem := { root := recording.tree, workingDirectory }
  let outcome := runArguments { around with files } arguments
  IO.eprint outcome.errors
  IO.print (String.ofList outcome.output)
  return outcome.exitCode.toUInt32

end CHeader

/-- The entry point of the tool. -/
def main (arguments : List String) : IO UInt32 :=
  CHeader.runTool arguments
