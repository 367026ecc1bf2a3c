import GraphLint.Command.Styled
import GraphLint.Project
import GraphLint.Report
/-! # Checking and setting up a project

A check validates every path that it is given and reports all findings together, or it fails as a
whole and reports none; the report can fail it, too.  Setting up writes a settings file with the
default settings. -/
namespace GraphLint.Command
open Files Styled

/-- The two forms of a report. -/
inductive Format where
  | text
  | json
  deriving DecidableEq, Repr

/-- What a check is asked to do. -/
structure CheckRequest where
  paths : List Text
  format : Format := .text
  /-- The settings file, if it is not the one in the working directory. -/
  config : Option Text := none
  verbose : Bool := false
  deriving DecidableEq, Repr

/-- Why a command fails. -/
inductive Failure where
  | missingPath (path : Text)
  | lint (error : LintError)
  | file (error : FileError)
  deriving DecidableEq, Repr

/-- What lies behind an error, if its message does not say it. -/
def causeText? : LintError → Option String
  | .fileRead _ cause => some cause.text
  | .configParse _ => none
  | .invalidExclude _ cause => some cause

/-- The wording of a failure. -/
def Failure.message : Failure → String
  | missingPath path => "path does not exist: " ++ String.ofList path
  | lint error => error.message ++ ((causeText? error).map (": " ++ ·)).getD ""
  | file error => error.text

/-! ## Collecting -/

/-- The settings of a check.  Settings that were asked for have to be usable; those in the working
directory are left aside if they are not. -/
def configFor (fs : FileSystem) (config : Option Text) : Except LintError Config :=
  match config with
  | some path => Config.load fs path
  | none => .ok (if fs.exists? Config.fileName then Config.loadOrDefault fs Config.fileName else {})

/-- The findings below paths, path by path; the first path that fails them fails them all. -/
def collect (fs : FileSystem) (config : Config) : List Text → Except Failure (List FileDiagnostic)
  | [] => .ok []
  | path :: rest =>
    if !fs.exists? path then .error (.missingPath path)
    else
      match Project.validate fs config path with
      | .error error => .error (.lint error)
      | .ok found =>
        match collect fs config rest with
        | .error failure => .error failure
        | .ok others => .ok (found ++ others)

/-- The findings of a check. -/
def findings (fs : FileSystem) (request : CheckRequest) : Except Failure (List FileDiagnostic) :=
  match configFor fs request.config with
  | .error error => .error (.lint error)
  | .ok config => collect fs config request.paths

/-! ## Reporting -/

/-- The style of a severity. -/
def severityStyle : Severity → Style
  | .error => .bad
  | .warning => .caution
  | .info => .notice
  | .hint => .notice

/-- A word counted from one. -/
def fromOne (n : UInt32) : String := toString (n + 1).toNat

/-- The rule of a finding and what to do about it. -/
def detailLines (d : Diagnostic) : Styled :=
  let help := match d.suggestion with
    | some s => plain "  " ++ within .hint "help:" ++ plain (" " ++ s ++ "\n")
    | none => []
  plain "  " ++ within .faint "rule:" ++ plain " " ++ within .faint d.rule ++ plain "\n" ++ help

/-- The lines about one finding. -/
def findingLines (verbose : Bool) (f : FileDiagnostic) : Styled :=
  let d := f.diagnostic
  textWithin .faint f.file ++
    plain (":" ++ fromOne d.range.start.line ++ ":" ++ fromOne d.range.start.character ++ " ") ++
    within (severityStyle d.severity) d.severity.word ++
    plain ("[" ++ d.stage.tag ++ "]: " ++ d.message ++ "\n") ++
    if verbose then detailLines d else []

/-- A number of things. -/
def counted (n : Nat) (noun : String) : String :=
  toString n ++ " " ++ noun ++ if n = 1 then "" else "s"

/-- The report for a reader. -/
def textReport (verbose : Bool) (found : List FileDiagnostic) : Styled :=
  if found.isEmpty then within .good "✓ No issues found" ++ plain "\n"
  else
    let summary := Report.summarise found
    found.flatMap (findingLines verbose) ++ plain "\n" ++
      textWithin .faint (List.replicate 60 '─') ++
      plain ("\nFound " ++ counted summary.errors "error" ++ ", " ++
        counted summary.warnings "warning" ++ "\n")

/-- The report for a program, with names relative to the working directory.  There is none if that
was removed. -/
def jsonReport (fs : FileSystem) (found : List FileDiagnostic) : Except Failure Styled :=
  match fs.workingPath? with
  | some base => .ok (ofText (Json.pretty 0 (Report.toJson base found) ++ ['\n']))
  | none => .error (.file .notFound)

/-- The report of a check. -/
def report (fs : FileSystem) (request : CheckRequest) (found : List FileDiagnostic) :
    Except Failure Styled :=
  match request.format with
  | .text => .ok (textReport request.verbose found)
  | .json => jsonReport fs found

/-! ## The default settings -/

/-- A list of texts as an entry of a settings file. -/
def listEntry (key : String) (items : List Text) : Text :=
  key.toList ++ " = [\n".toList ++
    items.flatMap (fun t => "    \"".toList ++ t ++ "\",\n".toList) ++ "]\n".toList

/-- The settings file that is written for a new project. -/
def defaultFile : Text :=
  let config : Config := {}
  listEntry "file_extensions" config.fileExtensions ++ listEntry "exclude" config.exclude ++
    "\n[rules]\nexpressions = true\nschema = true\ndisabled_rules = []\n".toList

/-- A file system with the default settings in the file at a path. -/
def setUp (fs : FileSystem) (path : Text) : Except Failure FileSystem :=
  match fs.write path (Text.encode defaultFile) with
  | .ok fs => .ok fs
  | .error error => .error (.file error)

end GraphLint.Command
