import GraphLint.ConfigFile
import GraphLint.Files.Pattern
import GraphLint.Files.Walk
import GraphLint.Validation
/-! # Files and projects

The findings about one file, and about all files below a path.  A project is validated as a whole: a
malformed exclude pattern or a file that cannot be read fails it.  Its findings are ordered by file,
then by position, then by rule. -/
namespace GraphLint.Project
open Files

/-- The findings about the file at a path, if its extension is accepted. -/
def validateFile (fs : FileSystem) (config : Config) (path : Text) :
    Except LintError (List Diagnostic) :=
  if config.accepts path then
    match fs.readText path with
    | .ok text => .ok (Validation.validate config text)
    | .error cause => .error (.fileRead path cause)
  else .ok []

/-- The pieces of the exclude patterns, or the first pattern that is malformed. -/
def readPatterns : List Text → Except LintError (List (List Pattern.Piece))
  | [] => .ok []
  | pattern :: rest =>
    match Pattern.read pattern with
    | .error fault => .error (.invalidExclude pattern fault.text)
    | .ok pieces => do return pieces :: (← readPatterns rest)

/-- Whether a walked file is validated. -/
def selects (config : Config) (patterns : List (List Pattern.Piece)) (path : Text) : Bool :=
  config.accepts path && !patterns.any (Pattern.covers · path)

/-- The findings about files, in the order of the files; the first one that cannot be read fails all
of them. -/
def validateAll (fs : FileSystem) (config : Config) :
    List Text → Except LintError (List FileDiagnostic)
  | [] => .ok []
  | path :: rest =>
    match validateFile fs config path with
    | .error e => .error e
    | .ok found =>
      match validateAll fs config rest with
      | .error e => .error e
      | .ok others => .ok (found.map (⟨path, ·⟩) ++ others)

/-- The order of findings. -/
def compareFindings (a b : FileDiagnostic) : Ordering :=
  (comparePaths a.file b.file).then
    ((compare a.diagnostic.range.start.line b.diagnostic.range.start.line).then
      ((compare a.diagnostic.range.start.character b.diagnostic.range.start.character).then
        (Component.nameCompare a.diagnostic.rule.toList b.diagnostic.rule.toList)))

/-- Findings in order; equal ones keep their order. -/
def sort (found : List FileDiagnostic) : List FileDiagnostic :=
  found.mergeSort fun a b => (compareFindings a b).isLE

/-- The findings about walked files. -/
def validateWalked (fs : FileSystem) (config : Config) (paths : List Text) :
    Except LintError (List FileDiagnostic) := do
  let patterns ← readPatterns config.exclude
  return sort (← validateAll fs config (paths.filter (selects config patterns)))

/-- The findings about all files at or below a path. -/
def validate (fs : FileSystem) (config : Config) (path : Text) :
    Except LintError (List FileDiagnostic) :=
  validateWalked fs config (walk fs path)

end GraphLint.Project
