import GraphLint.Position
/-! # Diagnostics

What the checks report: a range of the document, how grave the finding is, which stage found
it, the code of its rule, a message and perhaps a suggestion. -/
namespace GraphLint

/-- How grave a finding is. -/
inductive Severity where
  | error
  | warning
  | info
  | hint
  deriving DecidableEq, Repr, Inhabited

/-- The word for a severity in reports. -/
def Severity.word : Severity → String
  | .error => "error"
  | .warning => "warning"
  | .info => "info"
  | .hint => "hint"

/-- The stage of validation that found something. -/
inductive Stage where
  | yaml
  | cel
  | schema
  deriving DecidableEq, Repr, Inhabited

/-- The tag of a stage, a stable contract with editors and reports. -/
def Stage.tag : Stage → String
  | .yaml => "yaml"
  | .cel => "cel"
  | .schema => "kro-schema"

/-- One finding in one document. -/
structure Diagnostic where
  range : Range
  severity : Severity
  stage : Stage
  /-- The stable code of the rule, such as `cel::delimiters`. -/
  rule : String
  message : String
  suggestion : Option String
  deriving DecidableEq, Repr, Inhabited

/-- A finding of severity `error` without a suggestion. -/
def Diagnostic.ofError (range : Range) (stage : Stage) (rule message : String) : Diagnostic :=
  ⟨range, .error, stage, rule, message, none⟩

/-- A finding together with the path of the file it was found in. -/
structure FileDiagnostic where
  file : Text
  diagnostic : Diagnostic
  deriving DecidableEq, Repr, Inhabited

end GraphLint
