import GraphLint.Files.Path
import GraphLint.Text.Utf8
/-! # File systems

A file system as a value: directories, files and symbolic links below one root, and the directory that
relative paths start from.  Looking up a path follows links, at most forty of them.  The working
directory may have been removed; a look-up that starts there still has a directory to start in, but
one without entries. -/
namespace GraphLint.Files

/-- What stands at a place in a file system. -/
inductive Node where
  | file (content : List UInt8)
  /-- A file that may not be opened. -/
  | sealed
  | directory (entries : List (Text × Node))
  | link (target : Text)
  deriving Repr

namespace Node

/-- Whether a node is a directory. -/
def isDirectory : Node → Bool
  | directory _ => true
  | _ => false

/-- Whether a node is a file. -/
def isFile : Node → Bool
  | file _ => true
  | sealed => true
  | _ => false

/-- The entries of a directory. -/
def entries : Node → List (Text × Node)
  | directory es => es
  | _ => []

/-- The node at a place, links not followed. -/
def at? (n : Node) (names : List Text) : Option Node :=
  names.foldlM (fun n name => n.entries.lookup name) n

end Node

/-- A root and the names that lead to the working directory, or that led to it before it was
removed. -/
structure FileSystem where
  root : Node
  working : List Text
  deriving Repr

/-- Why a file cannot be used. -/
inductive FileError where
  | notFound
  | denied
  | notDirectory
  | isDirectory
  | tooManyLinks
  | nameTooLong
  | nulInPath
  | notText
  deriving DecidableEq, Repr

namespace FileError

/-- The kind of an error, in a word or two. -/
def kind : FileError → String
  | notFound => "entity not found"
  | denied => "permission denied"
  | notDirectory => "not a directory"
  | isDirectory => "is a directory"
  | tooManyLinks => "filesystem loop or indirection limit (e.g. symlink loop)"
  | nameTooLong => "invalid filename"
  | nulInPath => "invalid input parameter"
  | notText => "invalid data"

/-- An error as the system words it. -/
def text : FileError → String
  | notFound => "No such file or directory (os error 2)"
  | denied => "Permission denied (os error 13)"
  | notDirectory => "Not a directory (os error 20)"
  | isDirectory => "Is a directory (os error 21)"
  | tooManyLinks => "Too many levels of symbolic links (os error 40)"
  | nameTooLong => "File name too long (os error 36)"
  | nulInPath => "file name contained an unexpected NUL byte"
  | notText => "stream did not contain valid UTF-8"

end FileError

namespace FileSystem
variable (fs : FileSystem)

/-- How many links one look-up follows. -/
def linkLimit : Nat := 40

/-- How many octets a name may have. -/
def nameLimit : Nat := 255

/-- Whether there is a directory at a place. -/
def hasDirectory (place : List Text) : Bool := (fs.root.at? place).any Node.isDirectory

/-- The directory at a place.  What was removed, but is still worked in, is a directory without
entries. -/
def directoryAt (place : List Text) : Node :=
  match fs.root.at? place with
  | some (.directory entries) => .directory entries
  | _ => .directory []

/-- The absolute path of the working directory, unless it was removed. -/
def workingPath? : Option Text :=
  if fs.hasDirectory fs.working then some (absolute fs.working) else none

/-- Where an advance along the parts of a path ends. -/
inductive Stop where
  /-- At a node that is no link, with the names that lead to it. -/
  | arrived (place : List Text) (node : Node)
  /-- At a link in a directory, with the parts still to go. -/
  | link (directory : List Text) (target : Text) (rest : List Text)
  /-- At a directory that lacks the last part. -/
  | missing (directory : List Text) (name : Text)
  | failed (error : FileError)

/-- Advances along parts from a place as far as no link is met. -/
def advance : (place : List Text) → Node → (rest : List Text) → Stop
  | place, node, [] => .arrived place node
  | place, node, part :: rest =>
    if !node.isDirectory then .failed .notDirectory
    else if isIdle part then advance place node rest
    else if part = ['.', '.'] then
      advance place.dropLast (fs.directoryAt place.dropLast) rest
    else if nameLimit < (Text.encode part).length then .failed .nameTooLong
    else
      match node.entries.lookup part with
      | none => if rest.isEmpty then .missing place part else .failed .notFound
      | some (.link target) => .link place target rest
      | some next => advance (place ++ [part]) next rest

/-- Where a path starts: at the root or in a directory. -/
def startOf (directory : List Text) (path : Text) : List Text :=
  if isAbsolute path then [] else directory

/-- Follows parts from a directory, through at most `links` links. -/
def follow : (links : Nat) → (directory : List Text) → (rest : List Text) → Stop
  | links, directory, rest =>
    match fs.advance directory (fs.directoryAt directory) rest with
    | .link directory target rest =>
      match links with
      | 0 => .failed .tooManyLinks
      | links + 1 => follow links (startOf directory target) (parts target ++ rest)
    | stop => stop

/-- Where a path leads. -/
def stopAt (path : Text) : Stop :=
  if path.isEmpty then .failed .notFound
  else if path.contains '\x00' then .failed .nulInPath
  else fs.follow linkLimit (startOf fs.working path) (parts path)

/-- The names from the root to the node that a path leads to, and the node. -/
def locate (path : Text) : Except FileError (List Text × Node) :=
  match fs.stopAt path with
  | .arrived place node => .ok (place, node)
  | .failed error => .error error
  | _ => .error .notFound

/-- The node that a path leads to. -/
def node? (path : Text) : Option Node := (fs.locate path).toOption.map (·.2)

/-- Whether a path leads anywhere. -/
def exists? (path : Text) : Bool := (fs.node? path).isSome

/-- Whether a path leads to a directory. -/
def isDirectory (path : Text) : Bool := (fs.node? path).any Node.isDirectory

/-- Whether a path leads to a file. -/
def isFile (path : Text) : Bool := (fs.node? path).any Node.isFile

/-- The octets of the file that a path leads to. -/
def read (path : Text) : Except FileError (List UInt8) :=
  match fs.locate path with
  | .error e => .error e
  | .ok (_, .file content) => .ok content
  | .ok (_, .sealed) => .error .denied
  | .ok (_, .directory _) => .error .isDirectory
  | .ok (_, .link _) => .error .tooManyLinks

/-- The text of the file that a path leads to. -/
def readText (path : Text) : Except FileError Text :=
  match fs.read path with
  | .error e => .error e
  | .ok content =>
    match Text.decode? content with
    | some text => .ok text
    | none => .error .notText

end FileSystem

/-- A node with `new` at a place below it, whose directories exist. -/
def Node.put (new : Node) : List Text → Node → Node
  | [], _ => new
  | name :: rest, node =>
    match node.entries.lookup name with
    | some child =>
      .directory (node.entries.map fun e => if e.1 = name then (name, put new rest child) else e)
    | none => .directory (node.entries ++ [(name, put new rest (.directory []))])

/-- A file system in which a path leads to a file with the given content.  A new file is made if only
the last part of the path is missing, in a directory that was not removed; no file has a path that
ends in a slash. -/
def FileSystem.write (fs : FileSystem) (path : Text) (content : List UInt8) :
    Except FileError FileSystem :=
  let unlessSlash (result : Except FileError FileSystem) : Except FileError FileSystem :=
    if path.getLast? = some '/' then .error .isDirectory else result
  let put (place : List Text) : FileSystem :=
    { fs with root := Node.put (.file content) place fs.root }
  let bare := Text.trimEndChar '/' path
  match fs.stopAt (if bare.isEmpty then path else bare) with
  | .arrived _ (.directory _) => .error .isDirectory
  | .arrived _ .sealed => unlessSlash (.error .denied)
  | .arrived place _ => unlessSlash (.ok (put place))
  | .missing directory name =>
    unlessSlash (if fs.hasDirectory directory then .ok (put (directory ++ [name]))
      else .error .notFound)
  | .failed e => .error e
  | .link .. => .error .tooManyLinks

end GraphLint.Files
