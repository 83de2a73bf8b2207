import CHeader.Files
import CHeader.PathPattern

/-!
# Expanding path patterns

The paths that a pattern stands for are listed in the order of a walk that visits the entries of a
directory by ascending name, and a directory before what it holds.  A directory that cannot be
listed is noted in the place of its entries.  A name that is no text is matched by no component, but
`**` passes through directories of any name.
-/

namespace CHeader

/-- A directory that a walk could not list, and why. -/
structure WalkFault where
  /-- The path of the directory. -/
  path : Path
  /-- The reason. -/
  cause : FileError
  deriving DecidableEq, Repr

/-- The one-line message. -/
def WalkFault.message (fault : WalkFault) : String :=
  "attempting to read `" ++ String.ofList fault.path.shown ++ "` resulted in an error: " ++
    fault.cause.message

/-- A place that a walk comes to. -/
structure Place where
  /-- The path that was taken. -/
  path : Path
  /-- The last name on the path. -/
  name : Path
  /-- Whether the walk can go on from here. -/
  isDirectory : Bool
  deriving DecidableEq, Repr

namespace Place

/-- Whether a path says no more than "here". -/
def isHere (path : Path) : Bool :=
  match path.names with
  | first :: later => first == Path.here && later.all fun name => name.isEmpty || name == Path.here
  | [] => false

/-- The path of an entry of the directory at a path; from here it is the name alone. -/
def entryPath (path name : Path) : Path :=
  if isHere path then name else path.join name

/-- The place of a directory entry.  A link is as good as the directory that it leads to. -/
def ofEntry (files : FileSystem) (path name : Path) (node : FileNode) : Place :=
  let inner := entryPath path name
  { path := inner
    name
    isDirectory :=
      match node with
      | .directory _ _ => true
      | .file _ _ => false
      | .link _ => files.isDirectory inner }

/-- The entries of a directory, by ascending name. -/
def children (files : FileSystem) (place : Place) : Except WalkFault (List Place) :=
  match files.list place.path with
  | .ok entries => .ok (entries.map fun (name, node) => ofEntry files place.path name node)
  | .error cause => .error ⟨place.path, cause⟩

/-- What is below a directory, down to the given number of levels. -/
def below (files : FileSystem) : Nat → Place → List (Except WalkFault Place)
  | 0, _ => []
  | levels + 1, place =>
      match children files place with
      | .error fault => [.error fault]
      | .ok places => places.flatMap fun child =>
          .ok child :: if child.isDirectory then below files levels child else []

/-- What is below a place.  There are no more levels than a path can have names, and so no more than
it can have bytes, even if links lead in a circle. -/
def descendants (files : FileSystem) (place : Place) : List (Except WalkFault Place) :=
  if place.isDirectory then below files FileSystem.maxPathBytes place else []

/-- The place that a name leads to from a place, if it is there. -/
def child? (files : FileSystem) (place : Place) (name : Path) : Option Place :=
  let path := entryPath place.path name
  let found := if name.isDots then place.isDirectory else files.contains path
  if found then some ⟨path, name, files.isDirectory path⟩ else none

/-- The parent of a directory and the directory itself, as far as wildcards that begin with a dot
stand for them. -/
def dotPlaces (files : FileSystem) (place : Place) (parts : List PatternPart) : List Place :=
  if parts.head? == some (.char '.') then
    ([['.', '.'], ['.']].filter (PatternPart.matchText parts)).map fun text =>
      let path := place.path.join (.ofText text)
      ⟨path, .ofText text, files.isDirectory path⟩
  else []

/-- The places that components lead to from a place. -/
def expand (files : FileSystem) :
    List PatternComponent → Place → List (Except WalkFault Place)
  | [], place => [.ok place]
  | .name text :: later, place =>
      (place.child? files (.ofText text)).toList.flatMap (expand files later)
  | .wildcard parts :: later, place =>
      if place.isDirectory then
        match children files place with
        | .error fault => [.error fault]
        | .ok places =>
            (place.dotPlaces files parts ++ places.filter fun child =>
              (PatternComponent.wildcard parts).matchName child.name).flatMap (expand files later)
      else []
  | [.anyDirectories], place =>
      (place.descendants files).filter fun
        | .ok below => below.isDirectory
        | .error _ => true
  | .anyDirectories :: .anyDirectories :: later, place =>
      expand files (.anyDirectories :: later) place
  | .anyDirectories :: component :: later, place =>
      (place.descendants files).flatMap fun
        | .ok below => if component.matchName below.name then expand files later below else []
        | .error fault => [.error fault]

end Place

namespace PathPattern

/-- Where the components of a pattern start. -/
def start (pattern : PathPattern) (files : FileSystem) : Place :=
  let path := if pattern.absolute then [Path.slash] else Path.here
  ⟨path, path, files.isDirectory path⟩

/-- What a walk for a pattern comes to: places that the pattern stands for, and directories that
could not be listed. -/
def walk (pattern : PathPattern) (files : FileSystem) : List (Except WalkFault Place) :=
  Place.expand files pattern.components (pattern.start files)

/-- The paths of the regular files that a pattern stands for. -/
def expand (pattern : PathPattern) (files : FileSystem) : List Path :=
  if pattern.directoryOnly then []
  else
    (pattern.walk files).filterMap fun
      | .ok place => if files.isFile place.path then some place.path else none
      | .error _ => none

/-- The directories that a walk for a pattern could not list. -/
def faults (pattern : PathPattern) (files : FileSystem) : List WalkFault :=
  (pattern.walk files).filterMap fun
    | .ok _ => none
    | .error fault => some fault

end PathPattern
end CHeader
