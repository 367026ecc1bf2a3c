import GraphLint.Text.Split
import GraphLint.Uri.Percent
/-! # Paths of URIs

The path of a URI is a list of segments, or a flat text if the URI has no hierarchy.  Reading a path
resolves its dot segments: one dot is left out, two dots remove the segment before them, but never a
drive letter. -/
namespace GraphLint.Uri

/-- The path of a URI. -/
inductive Path where
  | flat (t : Text)
  | segments (ss : List Text)
  deriving DecidableEq, Repr

/-- A path as it is written. -/
def Path.print : Path → Text
  | flat t => t
  | segments ss => ss.flatMap ('/' :: ·)

/-- Whether a segment is a letter and a colon, or a letter and a bar. -/
def isDriveLetter : Text → Bool
  | [c, d] => c.isAlpha && (d == ':' || d == '|')
  | _ => false

/-- Whether an encoded segment is a single dot. -/
def isSingleDot (s : Text) : Bool :=
  s == ['.'] || s.map Char.toLower == "%2e".toList

/-- Whether an encoded segment is two dots. -/
def isDoubleDot (s : Text) : Bool :=
  let s := s.map Char.toLower
  s == "..".toList || s == ".%2e".toList || s == "%2e.".toList || s == "%2e%2e".toList

/-- The segments without the last one, unless that is a drive letter. -/
def shorten (done : List Text) : List Text :=
  if done.getLast?.any isDriveLetter then done else done.dropLast

/-- A segment that is no dot segment.  The first one of a `file` path may be a drive letter, which is
written with a colon, or start with one. -/
def named (isFile : Bool) (done : List Text) (segment : Text) : List Text :=
  match isFile && done.isEmpty, segment with
  | true, [c, d] => if isDriveLetter [c, d] then [[c, ':']] else [[c, d]]
  | true, c :: ':' :: rest => if c.isAlpha then [[c, ':'], rest] else [c :: ':' :: rest]
  | _, _ => done ++ [segment]

/-- The segments after one more, which a slash may follow. -/
def commit (isFile : Bool) (done : List Text) (segment : Text) (slash : Bool) : List Text :=
  let close (ss : List Text) : List Text := if slash then ss else ss ++ [[]]
  if isDoubleDot segment then close (shorten done)
  else if isSingleDot segment then close done
  else named isFile done segment

/-- Whether a character ends a segment. -/
def isSlash (special : Bool) (c : Char) : Bool := c == '/' || (special && c == '\\')

/-- Whether a character ends a path. -/
def endsPath (c : Char) : Bool := c == '?' || c == '#'

/-- Reads segments after the slash that a path starts with, up to a query or a fragment. -/
def readSegments (special isFile : Bool) : (done : List Text) → (segment : Text) → Text →
    List Text × Text
  | done, segment, [] => (commit isFile done segment false, [])
  | done, segment, c :: t =>
    if isSlash special c then readSegments special isFile (commit isFile done segment true) [] t
    else if endsPath c then (commit isFile done segment false, c :: t)
    else readSegments special isFile done (segment ++ encodeChar pathSet c) t

/-- The segments of a `file` path, without empty ones in front. -/
def filePath (ss : List Text) : List Text :=
  match ss.dropWhile List.isEmpty with
  | [] => [[]]
  | ss => ss

end GraphLint.Uri
