import CHeader.Path

/-!
# File trees

Headers and settings are read from a tree of directories, files and links.  A path is resolved name
by name, from the root or from the working directory; empty names and `.` stay where they are and
`..` goes to the parent, but each of them needs a directory to start from.  A link is replaced by
the names that it points to.  Files may be unreadable, and directories may refuse to be listed or to
be passed through.
-/

namespace CHeader

/-- The reasons why a path cannot be read. -/
inductive FileError where
  | notFound
  | notDirectory
  | isDirectory
  | permissionDenied
  | nameTooLong
  | tooManyLinks
  | nulInPath
  | invalidUtf8
  /-- Any other failure, in the wording of the operating system. -/
  | other (wording : String)
  deriving DecidableEq, Repr

/-- The wording of the operating system and of the decoder. -/
def FileError.message : FileError → String
  | notFound => "No such file or directory (os error 2)"
  | notDirectory => "Not a directory (os error 20)"
  | isDirectory => "Is a directory (os error 21)"
  | permissionDenied => "Permission denied (os error 13)"
  | nameTooLong => "File name too long (os error 36)"
  | tooManyLinks => "Too many levels of symbolic links (os error 40)"
  | nulInPath => "file name contained an unexpected NUL byte"
  | invalidUtf8 => "stream did not contain valid UTF-8"
  | other wording => wording

/-- What a directory refuses, with the reason. -/
structure Refusals where
  /-- Why the entries cannot be listed. -/
  listing : Option FileError := none
  /-- Why no path leads through the directory. -/
  passage : Option FileError := none
  deriving DecidableEq, Repr

/-- A node of a file tree. -/
inductive FileNode where
  /-- A file with its bytes, or with the reason why they cannot be read.  Pipes and devices are
  files that are not regular. -/
  | file (content : Except FileError ByteArray) (regular : Bool := true)
  | directory (entries : List (Path × FileNode)) (refusals : Refusals := {})
  | link (target : Path)

/-- A file tree with a working directory, which is given by the names that lead to it. -/
structure FileSystem where
  /-- The root directory. -/
  root : FileNode
  /-- The names from the root to the working directory. -/
  workingDirectory : List Path

namespace FileNode

/-- Changes the node that names lead to, with directories on the way as needed. -/
def update (change : Option FileNode → FileNode) : List Path → Option FileNode → FileNode
  | [], node => change node
  | name :: names, node =>
      if name == Path.here then update change names node
      else
        match node with
        | some (directory entries refusals) =>
            directory (entries.filter (fun entry => entry.1 ≠ name) ++
              [(name, update change names (entries.lookup name))]) refusals
        | _ => directory [(name, update change names none)]

/-- Puts a node that is no directory at the place that names lead to. -/
def put (tree node : FileNode) (names : List Path) : FileNode :=
  update (fun _ => node) names (some tree)

/-- Puts a file at the place that names lead to. -/
def putFile (content : ByteArray) (names : List Path) (tree : FileNode) : FileNode :=
  tree.put (file (.ok content)) names

/-- Makes the place that names lead to a directory; one that is there keeps its entries. -/
def putDirectory (names : List Path) (tree : FileNode) (refusals : Refusals := {}) : FileNode :=
  update
    (fun
      | some (directory entries _) => directory entries refusals
      | _ => directory [] refusals)
    names (some tree)

/-- Whether a node is a directory. -/
def isDirectory : FileNode → Bool
  | directory _ _ => true
  | _ => false

end FileNode

/-- The nodes from a place in the tree up to the root, the place itself first. -/
abbrev Ancestry := List FileNode

namespace Ancestry

/-- The longest name of a directory entry in bytes. -/
def maxNameBytes : Nat := 255

/-- Goes from a place to where one name leads.  A link is not followed. -/
def enter (ancestry : Ancestry) (name : Path) : Except FileError Ancestry :=
  match ancestry with
  | .directory entries refusals :: above =>
      if name.isEmpty then .ok ancestry
      else
        match refusals.passage with
        | some cause => .error cause
        | none =>
            if name == Path.here then .ok ancestry
            else if name == Path.parent then .ok (if above.isEmpty then ancestry else above)
            else if maxNameBytes < name.length then .error .nameTooLong
            else
              match entries.lookup name with
              | some node => .ok (node :: ancestry)
              | none => .error .notFound
  | _ => .error .notDirectory

/-- Goes from a place to where names lead.  At a link, `follow` goes on from where the link starts
to where its target and the names behind it lead. -/
def walkWith (follow : Ancestry → List Path → Except FileError Ancestry) :
    Ancestry → List Path → Except FileError Ancestry
  | ancestry, [] => .ok ancestry
  | ancestry, name :: names => do
      match ← enter ancestry name with
      | .link target :: above =>
          let start := if target.isAbsolute then above.getLast?.toList else above
          follow start (target.names ++ names)
      | next => walkWith follow next names

/-- Goes from a place to where names lead, through at most the given number of links. -/
def walk : Nat → Ancestry → List Path → Except FileError Ancestry
  | 0 => walkWith fun _ _ => .error .tooManyLinks
  | links + 1 => walkWith (walk links)

/-- Goes down from a place by names of directory entries. -/
def descend? (ancestry : Ancestry) : List Path → Option Ancestry
  | [] => some ancestry
  | name :: names =>
      match ancestry with
      | .directory entries _ :: _ =>
          (entries.lookup name).bind fun node => descend? (node :: ancestry) names
      | _ => none

end Ancestry

namespace FileSystem

/-- The longest path in bytes. -/
def maxPathBytes : Nat := 4095

/-- The most links that are followed to resolve one path. -/
def maxLinks : Nat := 40

/-- The place of the working directory, unless it has been removed. -/
def here (files : FileSystem) : Except FileError Ancestry :=
  match Ancestry.descend? [files.root] files.workingDirectory with
  | some ancestry => .ok ancestry
  | none => .error .notFound

/-- The place that a path leads to. -/
def locate (files : FileSystem) (path : Path) : Except FileError Ancestry := do
  if path.contains 0 then .error .nulInPath
  else if path.isEmpty then .error .notFound
  else if maxPathBytes < path.length then .error .nameTooLong
  else
    let start ← if path.isAbsolute then .ok [files.root] else files.here
    Ancestry.walk maxLinks start path.names

/-- Whether a path leads anywhere. -/
def contains (files : FileSystem) (path : Path) : Bool :=
  (files.locate path).isOk

/-- Whether a path leads to a directory. -/
def isDirectory (files : FileSystem) (path : Path) : Bool :=
  match files.locate path with
  | .ok (.directory _ _ :: _) => true
  | _ => false

/-- Whether a path leads to a regular file. -/
def isFile (files : FileSystem) (path : Path) : Bool :=
  match files.locate path with
  | .ok (.file _ regular :: _) => regular
  | _ => false

/-- The text of the file that a path leads to. -/
def read (files : FileSystem) (path : Path) : Except FileError Text := do
  match ← files.locate path with
  | .file content _ :: _ =>
      match Text.ofUtf8? (← content) with
      | some text => .ok text
      | none => .error .invalidUtf8
  | .directory _ refusals :: _ => .error (refusals.listing.getD .isDirectory)
  | _ => .error .notFound

/-- What can be read is there. -/
theorem contains_of_read {files : FileSystem} {path : Path} {text : Text}
    (found : files.read path = .ok text) : files.contains path = true := by
  unfold read at found
  rw [contains]
  cases place : files.locate path with
  | ok ancestry => rfl
  | error cause => simp [place, bind, Except.bind] at found

/-- The entries of the directory that a path leads to, by ascending name. -/
def list (files : FileSystem) (path : Path) : Except FileError (List (Path × FileNode)) := do
  match ← files.locate path with
  | .directory entries refusals :: _ =>
      match refusals.listing with
      | some cause => .error cause
      | none => .ok (entries.mergeSort fun a b => !decide (b.1 < a.1))
  | _ => .error .notDirectory

/-- The path of the working directory, unless that has been removed. -/
def workingPath (files : FileSystem) : Except FileError Path :=
  files.here.map fun _ =>
    if files.workingDirectory.isEmpty then [Path.slash]
    else files.workingDirectory.flatMap fun name => Path.slash :: name

end FileSystem
end CHeader
