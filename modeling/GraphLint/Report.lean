import GraphLint.Diagnostic
import GraphLint.Files.Path
import GraphLint.Json
/-! # The report of a run

All findings of a run as one JSON value, with lines and columns counted from one, together with how
many files have findings and how many findings there are of each severity. -/
namespace GraphLint.Report
open Files

/-- The version of the program. -/
def version : String := "0.3.0"

/-- How many findings there are of each severity; hints count as information. -/
structure Summary where
  errors : Nat
  warnings : Nat
  info : Nat
  deriving DecidableEq, Repr

/-- How many findings have one of the severities. -/
def countOf (severities : List Severity) (found : List FileDiagnostic) : Nat :=
  found.countP fun f => severities.contains f.diagnostic.severity

/-- The summary of findings. -/
def summarise (found : List FileDiagnostic) : Summary :=
  ⟨countOf [.error] found, countOf [.warning] found, countOf [.info, .hint] found⟩

/-- The name of a file in a report: relative to `base` if it is below it, with slashes only. -/
def fileName (base file : Text) : Text :=
  ((below? base file).getD file).map fun c => if c = '\\' then '/' else c

/-- How many different files findings name. -/
def fileCount : List FileDiagnostic → Nat
  | [] => 0
  | f :: rest => (if rest.any (samePath f.file ·.file) then 0 else 1) + fileCount rest

/-- A word counted from one. -/
def fromOne (n : UInt32) : Json := .ofNat (n + 1).toNat

/-- One finding in a report. -/
def entry (base : Text) (f : FileDiagnostic) : Json :=
  let d := f.diagnostic
  .object <|
    [("level", .string d.severity.word), ("source", .string d.stage.tag), ("rule", .string d.rule),
      ("file", .ofText (fileName base f.file)), ("line", fromOne d.range.start.line),
      ("column", fromOne d.range.start.character), ("end_line", fromOne d.range.stop.line),
      ("end_column", fromOne d.range.stop.character), ("message", .string d.message)] ++
      d.suggestion.toList.map fun s => ("suggestion", .string s)

/-- The report of findings, with the names of files relative to `base`. -/
def toJson (base : Text) (found : List FileDiagnostic) : Json :=
  let s := summarise found
  .object
    [("version", .string version), ("files_with_diagnostics", .ofNat (fileCount found)),
      ("diagnostics", .array (found.map (entry base))),
      ("summary", .object
        [("errors", .ofNat s.errors), ("warnings", .ofNat s.warnings), ("info", .ofNat s.info)])]

end GraphLint.Report
