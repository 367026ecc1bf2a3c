import GraphLint.Config
import GraphLint.Files.Tree
import GraphLint.Toml.Document
/-! # The settings file

A settings file is TOML.  A key that is missing has its default value and an unknown key is left
aside; but a key whose value is of another kind than expected makes the whole file unusable. -/
namespace GraphLint

/-- Why an operation on files failed. -/
inductive LintError where
  | fileRead (path : Text) (cause : Files.FileError)
  | configParse (path : Text)
  | invalidExclude (pattern : Text) (cause : String)
  deriving DecidableEq, Repr

/-- The wording of an error. -/
def LintError.message : LintError → String
  | fileRead path _ => "Failed to read file: " ++ String.ofList path
  | configParse path => "Failed to parse config file: " ++ String.ofList path
  | invalidExclude pattern _ => "Invalid exclude pattern in config: " ++ String.ofList pattern

namespace Config

/-- A truth value. -/
def readBool : Toml.Value → Option Bool
  | .boolean b => some b
  | _ => none

/-- A text. -/
def readText : Toml.Value → Option Text
  | .text t => some t
  | _ => none

/-- A list of texts. -/
def readTexts : Toml.Value → Option (List Text)
  | .list items => items.mapM readText
  | _ => none

/-- Codes of rules. -/
def readCodes (v : Toml.Value) : Option (List String) := (readTexts v).map (·.map String.ofList)

/-- The value of a key, or the default if the key is missing. -/
def readKey {α : Type} (read : Toml.Value → Option α) (es : Toml.Entries) (key : String)
    (default : α) : Option α :=
  match es.find? key.toList with
  | none => some default
  | some v => read v

/-- The value at a place in a list, or the default if the list is shorter. -/
def readItem {α : Type} (read : Toml.Value → Option α) (items : List Toml.Value) (index : Nat)
    (default : α) : Option α :=
  match items[index]? with
  | none => some default
  | some v => read v

/-- The switches for the rules: a table, or a list of the values in the order of their keys.  A date
counts as a table without known keys. -/
def readRules : Toml.Value → Option RuleConfig
  | .table _ es => do
    return ⟨← readKey readBool es "expressions" true, ← readKey readBool es "schema" true,
      ← readKey readCodes es "disabled_rules" []⟩
  | .list items => do
    return ⟨← readItem readBool items 0 true, ← readItem readBool items 1 true,
      ← readItem readCodes items 2 []⟩
  | .moment => some {}
  | _ => none

/-- The settings that a table denotes. -/
def ofEntries? (es : Toml.Entries) : Option Config := do
  let default : Config := {}
  return ⟨← readKey readRules es "rules" {},
    ← readKey readTexts es "file_extensions" default.fileExtensions,
    ← readKey readTexts es "exclude" default.exclude⟩

/-- The settings that a text denotes. -/
def ofText? (t : Text) : Option Config := (Toml.parse? t).bind ofEntries?

/-- The settings in the file at a path. -/
def load (fs : Files.FileSystem) (path : Text) : Except LintError Config :=
  match fs.readText path with
  | .error cause => .error (.fileRead path cause)
  | .ok text =>
    match ofText? text with
    | some config => .ok config
    | none => .error (.configParse path)

/-- The settings in the file at a path; whatever is wrong with it, the defaults instead. -/
def loadOrDefault (fs : Files.FileSystem) (path : Text) : Config :=
  match load fs path with
  | .ok config => config
  | .error _ => {}

end Config
end GraphLint
