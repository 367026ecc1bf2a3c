import GraphLint.Config
import GraphLint.Diagnostic
/-! # The fields of a graph definition

What every ResourceGraphDefinition must have: a kind and an API version with fixed values, and the
blocks `metadata` and `spec` with a field each.  Everything is judged from the text.  A field is
present when its name and a colon occur anywhere; a fixed value must stand on a line of its own; and
a block is an unindented header directly followed by indented lines with a key. -/
namespace GraphLint.Schema

/-- A field with a fixed value. -/
structure FixedField where
  name : String
  value : String
  rule : String

/-- A block with a required field. -/
structure Block where
  name : String
  child : String
  rule : String
  childRule : String
  /-- What to do about a missing block. -/
  advice : String
  /-- What to do about a missing field. -/
  childAdvice : String

/-- The kind of a graph definition. -/
def kind : FixedField := ⟨"kind", "ResourceGraphDefinition", "schema::kind"⟩

/-- The API version of a graph definition. -/
def apiVersion : FixedField := ⟨"apiVersion", "kro.run/v1alpha1", "schema::api-version"⟩

/-- The block that names a graph. -/
def metadata : Block :=
  ⟨"metadata", "name", "schema::metadata", "schema::metadata-name",
    "Add a 'metadata:' block with a 'name'", "Add '  name: <graph-name>' under 'metadata:'"⟩

/-- The block that holds the resources. -/
def spec : Block :=
  ⟨"spec", "resources", "schema::spec", "schema::spec-resources",
    "Add a 'spec:' block with 'resources'", "Add '  resources:' under 'spec:'"⟩

/-- The name of a field as it starts its line. -/
def header (name : String) : Text := name.toList ++ [':']

/-! ## Lines -/

/-- Whether nothing but the end of a line is left of it, a comment aside. -/
def endsLine : Text → Bool
  | [] => true
  | ['\r'] => true
  | c :: _ => c == '#'

/-- The spellings of a value: bare, in double quotes or in single quotes. -/
def spellings (value : Text) : List Text :=
  [value, '"' :: value ++ ['"'], '\'' :: value ++ ['\'']]

/-- Whether a line gives a field its value. -/
def FixedField.isGivenOn (f : FixedField) (line : Text) : Bool :=
  match Text.after? (header f.name) (Text.dropSpaces line) with
  | none => false
  | some rest =>
    (spellings f.value.toList).any fun v =>
      (Text.after? v (Text.dropSpaces rest)).any fun tail => endsLine (Text.dropSpaces tail)

/-- Whether a line is the header of a block, with nothing after it. -/
def isHeader (name : String) (line : Text) : Bool :=
  match Text.after? (header name) line with
  | none => false
  | some rest =>
    match Text.dropSpaces rest with
    | [] => true
    | ['\r'] => true
    | _ => false

/-- Whether a line belongs to a block: it is indented and holds a key. -/
def isBlockLine (line : Text) : Bool :=
  match line with
  | [] => false
  | c :: rest => Text.isSpaceOrTab c && rest.head?.any (· != ':') && rest.contains ':'

/-- The lines of the first block with a name, without its header. -/
def blockLines? (name : String) : List Text → Option (List Text)
  | [] => none
  | line :: rest =>
    let body := rest.takeWhile isBlockLine
    if isHeader name line && !body.isEmpty then some body else blockLines? name rest

/-- The number of the first line that is a name and a colon, white space aside, or 0. -/
def headerLine (name : String) (lines : List Text) : Nat :=
  (lines.findIdx? fun line => Text.trim line == header name).getD 0

/-! ## Findings -/

/-- A finding with a suggestion. -/
def finding (range : Range) (rule message suggestion : String) : Diagnostic :=
  ⟨range, .error, .schema, rule, "Kro Schema Error: " ++ message, some suggestion⟩

/-- What is wrong with a field of fixed value. -/
def FixedField.findings (f : FixedField) (text : Text) : List Diagnostic :=
  let wanted := f.name ++ ": " ++ f.value ++ "'"
  if !Text.occurs (header f.name) text then
    [finding (.lineStart 0) f.rule ("Missing required field '" ++ f.name ++ "'") ("Add '" ++ wanted)]
  else if (Text.lines text).any f.isGivenOn then []
  else
    [finding (.lineStart 0) f.rule ("'" ++ f.name ++ "' must be '" ++ f.value ++ "'")
      ("Set '" ++ wanted)]

/-- Whether a block is missing. -/
def Block.findings (b : Block) (text : Text) : List Diagnostic :=
  if Text.occurs (header b.name) text then []
  else
    [finding (.lineStart 0) b.rule ("Missing required field '" ++ b.name ++ "'") b.advice]

/-- Whether a block lacks its field. -/
def Block.childFindings (b : Block) (text : Text) : List Diagnostic :=
  match blockLines? b.name (Text.lines text) with
  | none => []
  | some body =>
    if body.any (Text.occurs (header b.child)) then []
    else
      let line := UInt32.ofNat (headerLine b.name (Text.lines text))
      [finding (.fullLine text line) b.childRule
        ("'" ++ b.name ++ "' must contain '" ++ b.child ++ "' field") b.childAdvice]

/-- Everything that is wrong with the fields of a text, in a fixed order. -/
def findings (text : Text) : List Diagnostic :=
  kind.findings text ++ apiVersion.findings text ++ metadata.findings text ++ spec.findings text ++
    metadata.childFindings text ++ spec.childFindings text

/-- The findings that are reported. -/
def check (config : Config) (text : Text) : List Diagnostic :=
  if config.rules.schema then (findings text).filter (config.enables ·.rule) else []

end GraphLint.Schema
