import GraphLint.Text.Blank
/-! # Configuration

Which rules are reported, which documents are looked at, and which paths a walk leaves out. -/
namespace GraphLint

/-- The switches for the rules. -/
structure RuleConfig where
  expressions : Bool := true
  schema : Bool := true
  /-- Codes of rules that are not reported. -/
  disabledRules : List String := []
  deriving DecidableEq, Repr, Inhabited

/-- The settings of a workspace. -/
structure Config where
  rules : RuleConfig := {}
  /-- The accepted extensions, without the dot. -/
  fileExtensions : List Text := ["kro".toList, "yaml".toList, "yml".toList]
  /-- The patterns of the paths that a walk leaves out. -/
  exclude : List Text :=
    ["node_modules/**".toList, ".git/**".toList, "target/**".toList]
  deriving DecidableEq, Repr, Inhabited

namespace Config

/-- The name of the settings file in the root of a workspace. -/
def fileName : Text := ".kro-lsp.toml".toList

/-- Whether a code belongs to a category of rules. -/
def inCategory (category : String) (rule : String) : Bool :=
  (category ++ "::").toList.isPrefixOf rule.toList

/-- Whether a rule is reported.  The form of the YAML text is always checked, since every other
check depends on it. -/
def enables (c : Config) (rule : String) : Bool :=
  if inCategory "yaml" rule then true
  else if c.rules.disabledRules.contains rule then false
  else if inCategory "cel" rule then c.rules.expressions
  else if inCategory "schema" rule then c.rules.schema
  else true

/-- Whether a path ends in a dot and an extension. -/
def hasExtension (path extension : Text) : Bool := ('.' :: extension).isSuffixOf path

/-- Whether a document is looked at, by the extension of its path or URI.  A query and a fragment
are left aside. -/
def accepts (c : Config) (path : Text) : Bool :=
  let path := path.takeWhile fun x => x != '?' && x != '#'
  c.fileExtensions.any (hasExtension path ·)

end Config
end GraphLint
