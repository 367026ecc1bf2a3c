import GraphLint.Files.Ignore
/-! # Walking a directory

The entries below a path, each with the path it is walked by.  Hidden entries and those that ignore
files name are left out, the path that the walk starts from never is.  A link to a directory is
walked only if the walk starts from it. -/
namespace GraphLint.Files

/-- Whether a walked entry is a file, links followed. -/
def isFileEntry (fs : FileSystem) (path : Text) (node : Node) : Bool :=
  match node with
  | .file _ => true
  | .sealed => true
  | .link _ => fs.isFile path
  | .directory _ => false

mutual

/-- The files at and below an entry with a path. -/
def walkNode (fs : FileSystem) (levels : Levels) (path : Text) : Node → List Text
  | .directory entries =>
    let levels := { levels with within := Level.ofDirectory fs path :: levels.within }
    walkEntries fs levels path entries
  | node => if isFileEntry fs path node then [path] else []

/-- The files at and below the entries of a directory with a path. -/
def walkEntries (fs : FileSystem) (levels : Levels) (directory : Text) :
    List (Text × Node) → List Text
  | [] => []
  | (name, node) :: rest =>
    let path := child directory name
    let found :=
      if levels.leavesOut path name node.isDirectory then [] else walkNode fs levels path node
    found ++ walkEntries fs levels directory rest

end

/-- The names that lead to the directories above a place, the nearest first. -/
def placesAbove (place : List Text) : List (List Text) :=
  ((List.range place.length).map place.take).reverse

/-- The directories above the root of a walk by a path.  Nothing is known of them if the path starts
from a working directory that was removed. -/
def levelsAbove (fs : FileSystem) (path : Text) (place : List Text) : List Level :=
  if isAbsolute path || fs.hasDirectory fs.working then
    (placesAbove place).map fun names => Level.ofDirectory fs (absolute names)
  else []

/-- The paths of the files at or below a path. -/
def walk (fs : FileSystem) (path : Text) : List Text :=
  if path = ['-'] then []
  else
    match fs.locate path with
    | .error _ => []
    | .ok (place, node) =>
      walkNode fs ⟨[], levelsAbove fs path place, absolute place⟩ path node

end GraphLint.Files
