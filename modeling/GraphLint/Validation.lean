import GraphLint.Expression.Check
import GraphLint.Schema
import GraphLint.Yaml.Verdict
/-! # Validation of a document

Three stages.  The text must be YAML once its expressions are neutralised; if it is not, that is the
whole result.  Otherwise the findings about expressions follow, in the order of their positions, and
then those about the fields. -/
namespace GraphLint.Validation

/-- A judgement on the form of a text. -/
abbrev Verdict := Text → Except Yaml.FormError Unit

/-- The finding about the form of a text, if there is one. -/
def checkForm (verdict : Verdict) (text : Text) : List Diagnostic :=
  match verdict (Expression.neutralise text) with
  | .ok () => []
  | .error e =>
    [.ofError (.fullLine text e.line) .yaml "yaml::syntax" ("YAML Syntax Error: " ++ e.message)]

/-- The finding about one expression, if its rule is reported. -/
def checkSpan (config : Config) (span : Expression.Span) : Option Diagnostic :=
  match Expression.check span.body with
  | .ok () => none
  | .error problem =>
    if config.enables problem.rule then
      some (.ofError span.range .cel problem.rule ("CEL Expression Error: " ++ problem.message))
    else none

/-- The findings about the expressions of a text. -/
def checkExpressions (config : Config) (text : Text) : List Diagnostic :=
  if config.rules.expressions then (Expression.spans text).filterMap (checkSpan config) else []

/-- All findings about a text, when `verdict` judges its form. -/
def validateBy (verdict : Verdict) (config : Config) (text : Text) : List Diagnostic :=
  match checkForm verdict text with
  | [] => checkExpressions config text ++ Schema.check config text
  | found => found

/-- All findings about a text. -/
def validate (config : Config) (text : Text) : List Diagnostic := validateBy Yaml.check config text

/-- All findings about a document, if its name has an accepted extension. -/
def validateDocument (config : Config) (name text : Text) : List Diagnostic :=
  if config.accepts name then validate config text else []

end GraphLint.Validation
