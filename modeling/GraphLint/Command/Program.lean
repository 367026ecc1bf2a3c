import GraphLint.Command.Answer
import GraphLint.Command.Check
/-! # The command `kro`

The grammar of the command, and a run of it on a file system: what is printed, the code the program
ends with, and the files afterwards. -/
namespace GraphLint.Command
open Files Styled

/-- The options of every command. -/
def sharedOptions : List Opt :=
  [⟨some 'c', "config", some ⟨"CONFIG", .path⟩,
      "Config file path (defaults to ./.kro-lsp.toml when present)", ""⟩,
    ⟨some 'v', "verbose", none, "Verbose output", ""⟩]

/-- The command that validates. -/
def checkGrammar : Grammar where
  path := "kro check"
  about := "Validate files and directories"
  operand := some ⟨"PATHS", true, .path, "Paths to validate", "[default: .]"⟩
  options :=
    ⟨some 'f', "format", some ⟨"FORMAT", .choice ["text", "json"]⟩, "Output format",
      "[default: text] [possible values: text, json]"⟩ :: sharedOptions

/-- The command that writes a settings file. -/
def initGrammar : Grammar where
  path := "kro init"
  about := "Initialize config file"
  operand :=
    some ⟨"OUTPUT", false, .path, "Output path for config", "[default: .kro-lsp.toml]"⟩
  options := sharedOptions

/-- The command that explains the others. -/
def helpGrammar : Grammar where
  path := "kro help"
  about := "Print this message or the help of the given subcommand(s)"
  operand := some ⟨"COMMAND", true, .text, "Print help for the subcommand(s)", ""⟩
  options := []
  hasHelp := false

/-- The program itself. -/
def programGrammar : Grammar where
  path := "kro"
  about := "Validate kro ResourceGraphDefinition files"
  details := some
    ("Validate kro ResourceGraphDefinition files.\n\n" ++
      "Checks: YAML syntax, embedded \x7b\x7b \x7d\x7d expressions, required fields")
  options := sharedOptions
  commands :=
    [("check", checkGrammar.about), ("init", initGrammar.about), ("help", helpGrammar.about)]
  hasVersion := true

/-- What the command is asked to do. -/
inductive Action where
  | check (request : CheckRequest)
  | setUp (path : Text)
  deriving DecidableEq, Repr

/-- The grammar of a command with a name. -/
def grammarOf (name : Text) : Grammar :=
  if name = "check".toList then checkGrammar
  else if name = "init".toList then initGrammar
  else helpGrammar

/-- The answer to a request for help with the named command. -/
def helpFor : List Text → Stop
  | [] => .help programGrammar true
  | [name] =>
    if programGrammar.isCommand name then .help (grammarOf name) true
    else .refused (.unknownCommand name)
  | name :: next :: _ =>
    .refused (.unknownCommand (if programGrammar.isCommand name then next else name))

/-- What a command line without a command is answered by. -/
def withoutCommand (top : Reading) : Except Stop Action := do
  let top ← top.settle programGrammar
  if top.options.isEmpty then .error (.nothingGiven programGrammar)
  else .error (.refused (.commandRequired programGrammar.path))

/-- The action that options before and after the name of a command, and the operands, stand for.  Of
two settings files the one that is named later is used. -/
def actionOf (name : Text) (top r : Reading) : Action :=
  if name = "check".toList then
    .check
      { paths := if r.operands.isEmpty then [['.']] else r.operands
        format := if r.value? "format" = some "json".toList then .json else .text
        config := (r.value? "config").or (top.value? "config")
        verbose := r.has "verbose" || top.has "verbose" }
  else .setUp (r.operands.head?.getD Config.fileName)

/-- What a command line asks for. -/
def readAction (arguments : List Text) : Except Stop Action := do
  match ← programGrammar.read false arguments {} with
  | (top, none) => withoutCommand top
  | (top, some (name, rest)) =>
    if name = "help".toList then .error (helpFor rest)
    else
      let g := grammarOf name
      let (r, _) ← g.read false rest {}
      let r ← r.settle g
      let top ← top.settle programGrammar
      return actionOf name top r

/-- What is printed about a failure. -/
def Failure.printed (failure : Failure) : Printed :=
  ⟨1, [], within .bad "Error:" ++ plain (" " ++ failure.message ++ "\n")⟩

/-- Whether a finding is an error. -/
def isError (f : FileDiagnostic) : Bool := f.diagnostic.severity == .error

/-- A check: what it prints, and the code that says whether it found an error. -/
def check (fs : FileSystem) (request : CheckRequest) : Printed :=
  match findings fs request with
  | .error failure => failure.printed
  | .ok found =>
    match report fs request found with
    | .error failure => failure.printed
    | .ok output => ⟨if found.any isError then 1 else 0, output, []⟩

/-- What an action prints, and the files after it. -/
def perform (fs : FileSystem) : Action → Printed × FileSystem
  | .check request => (check fs request, fs)
  | .setUp path =>
    match setUp fs path with
    | .error failure => (failure.printed, fs)
    | .ok after =>
      (⟨0, within .good "✓" ++ plain (" Created config file: " ++ String.ofList path ++ "\n"), []⟩,
        after)

/-- A run of the command. -/
def run (fs : FileSystem) (arguments : List Text) : Printed × FileSystem :=
  match readAction arguments with
  | .error stop => (stop.answer programGrammar.path, fs)
  | .ok action => perform fs action

end GraphLint.Command
