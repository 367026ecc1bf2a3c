import GraphLint.Files.IgnoreRule
import GraphLint.Files.Tree
import GraphLint.Text.Lines
/-! # Ignore files

What the ignore files of a directory and of the directories above it say about an entry.  In each
directory a file `.ignore` holds rules; `.gitignore` and `.git/info/exclude` hold rules too where the
directory belongs to a repository.  Of the rules of one file the last one that applies decides; of
several files of one name the one nearest to the entry; and `.ignore` goes before `.gitignore`, which
goes before `.git/info/exclude`. -/
namespace GraphLint.Files

/-- One rule of an ignore file. -/
structure IgnoreRule where
  pieces : List IgnoreRule.Piece
  /-- Whether matching entries are taken in again. -/
  keeps : Bool
  directoriesOnly : Bool
  deriving Repr

/-- What rules decide about an entry. -/
inductive Decision where
  | ignored
  | kept
  deriving DecidableEq, Repr

namespace IgnoreRule

/-- A line without the white space at its end, unless a backslash protects the last space. -/
def trimLine (line : Text) : Text :=
  if ['\\', ' '].isSuffixOf line then line else Text.trimEnd line

/-- What a line says before its pattern: whether it takes entries in again, whether the pattern starts
at the directory of the file, and the pattern. -/
def readMarks (line : Text) : Bool × Bool × Text :=
  match line with
  | '\\' :: '!' :: rest => (false, false, '!' :: rest)
  | '\\' :: '#' :: rest => (false, false, '#' :: rest)
  | '!' :: '/' :: rest => (true, true, rest)
  | '!' :: rest => (true, false, rest)
  | '/' :: rest => (false, true, rest)
  | _ => (false, false, line)

/-- A pattern without the slash at its end, and whether there was one. -/
def readDirectoryMark (pattern : Text) : Bool × Text :=
  match Text.before? ['/'] pattern with
  | none => (false, pattern)
  | some bare => (true, (Text.before? ['\\'] bare).getD bare)

/-- The pattern that whole paths are matched against: one without slashes may stand at any depth, and
one that ends in two stars does not stand for the directory itself. -/
def wholePattern (anchored : Bool) (pattern : Text) : Text :=
  let deep := !anchored && !pattern.contains '/' && pattern != ['*', '*']
  let pattern := if deep then "**/".toList ++ pattern else pattern
  if "/**".toList.isSuffixOf pattern then pattern ++ "/*".toList else pattern

/-- The rule on a line, if there is one. -/
def ofLine? (line : Text) : Option IgnoreRule :=
  if line.head? = some '#' then none
  else
    let line := trimLine line
    if line.isEmpty then none
    else
      let (keeps, anchored, pattern) := readMarks line
      let (directoriesOnly, pattern) := readDirectoryMark pattern
      (read? (wholePattern anchored pattern)).map fun pieces => ⟨pieces, keeps, directoriesOnly⟩

/-- What rules decide about a path. -/
def decide? (rules : List IgnoreRule) (path : Text) (isDirectory : Bool) : Option Decision :=
  let applies (r : IgnoreRule) : Bool :=
    (isDirectory || !r.directoriesOnly) && isCovered r.pieces path
  (rules.reverse.find? applies).map fun r => if r.keeps then .kept else .ignored

end IgnoreRule

/-- The lines of octets up to the first one that is no text. -/
def textLines : List (List UInt8) → List Text
  | [] => []
  | line :: rest =>
    match Text.decode? line with
    | some t => (Text.before? ['\r'] t).getD t :: textLines rest
    | none => []

/-- Octets cut at line feeds. -/
def octetLines : List UInt8 → List (List UInt8)
  | [] => [[]]
  | o :: os =>
    match octetLines os with
    | line :: rest => if o = 0x0A then [] :: line :: rest else (o :: line) :: rest
    | [] => [[o]]

/-- The rules of an ignore file. -/
def rulesOf (content : List UInt8) : List IgnoreRule :=
  match textLines (octetLines content) with
  | [] => []
  | first :: rest => (first.dropWhile (· == '\ufeff') :: rest).filterMap IgnoreRule.ofLine?

/-- The rules that a directory contributes. -/
structure Level where
  /-- The path of the directory, without a leading `./`. -/
  path : Text
  ignore : List IgnoreRule
  gitIgnore : List IgnoreRule
  gitExclude : List IgnoreRule
  /-- Whether the directory is the root of a repository. -/
  hasGit : Bool
  deriving Repr

/-- A path without the dot and the slash it starts with. -/
def bare (path : Text) : Text := (Text.after? ['.', '/'] path).getD path

namespace Level

/-- The rules of the ignore file at a path, if there is one. -/
def load (fs : FileSystem) (path : Text) : List IgnoreRule :=
  match fs.read path with
  | .ok content => rulesOf content
  | .error _ => []

/-- The level of a directory. -/
def ofDirectory (fs : FileSystem) (directory : Text) : Level :=
  { path := bare directory
    ignore := load fs (child directory ".ignore".toList)
    gitIgnore := load fs (child directory ".gitignore".toList)
    gitExclude := load fs (child directory ".git/info/exclude".toList)
    hasGit := fs.exists? (child directory ".git".toList) }

/-- A path relative to the directory, if the directory is above it and is not the working one. -/
def relative (l : Level) (path : Text) : Text :=
  let path := bare path
  if l.path = ['.'] || !path.contains '/' then path
  else
    match Text.after? l.path path with
    | some rest => (Text.after? ['/'] rest).getD rest
    | none => path

end Level

/-- What the files of each kind have decided on the way up from an entry. -/
structure Verdicts where
  ignore : Option Decision
  gitIgnore : Option Decision
  gitExclude : Option Decision
  /-- Whether the root of a repository has been passed. -/
  leftGit : Bool

namespace Verdicts

/-- Before the first directory. -/
def start : Verdicts := ⟨none, none, none, false⟩

/-- After one more directory. -/
def add (inGit : Bool) (path : Text) (isDirectory : Bool) (v : Verdicts) (l : Level) : Verdicts :=
  let path := l.relative path
  let git := inGit && !v.leftGit
  let decide (known : Option Decision) (rules : List IgnoreRule) : Option Decision :=
    known.or (IgnoreRule.decide? rules path isDirectory)
  { ignore := decide v.ignore l.ignore
    gitIgnore := if git then decide v.gitIgnore l.gitIgnore else v.gitIgnore
    gitExclude := if git then decide v.gitExclude l.gitExclude else v.gitExclude
    leftGit := v.leftGit || l.hasGit }

/-- The decision of all files together. -/
def decision (v : Verdicts) : Option Decision := v.ignore.or (v.gitIgnore.or v.gitExclude)

end Verdicts

/-- The directories that may decide about an entry, the nearest first: those of the walk, and those
above the root of the walk. -/
structure Levels where
  within : List Level
  above : List Level
  /-- The absolute path of the root of the walk. -/
  root : Text

namespace Levels

/-- The path under which the directories above the walk see an entry: what follows the root of the walk
in the path, below the absolute path of that root. -/
def outerPath (ls : Levels) (path : Text) : Text :=
  let top := (ls.within.getLast?.map (·.path)).getD []
  let inner := match Text.after? top path with
    | none => path
    | some rest => (Text.after? ['/'] rest).getD rest
  if isAbsolute inner then inner else child ls.root inner

/-- What the ignore files decide about an entry at a path. -/
def decide? (ls : Levels) (path : Text) (isDirectory : Bool) : Option Decision :=
  let path := bare path
  let inGit := (ls.within ++ ls.above).any (·.hasGit)
  let v := ls.within.foldl (Verdicts.add inGit path isDirectory) .start
  (ls.above.foldl (Verdicts.add inGit (ls.outerPath path) isDirectory) v).decision

/-- Whether a walk leaves an entry out: by decision, or because its name starts with a dot. -/
def leavesOut (ls : Levels) (path name : Text) (isDirectory : Bool) : Bool :=
  match ls.decide? path isDirectory with
  | some .ignored => true
  | some .kept => false
  | none => name.head? == some '.'

end Levels
end GraphLint.Files
