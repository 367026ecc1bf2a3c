import GraphLint.Command.Answer
/-! # The command `kro-lsp`

The grammar of the command that starts the server, and what a command line asks of it. -/
namespace GraphLint.Command
open Styled

/-- The program that serves editors. -/
def launchGrammar : Grammar where
  path := "kro-lsp"
  about := "Language server for kro ResourceGraphDefinition files"
  options :=
    [⟨none, "lsp-addr", some ⟨"HOST:PORT", .text⟩,
        "Listen for LSP clients on this address (e.g. 127.0.0.1:5001)", ""⟩,
      ⟨none, "port", some ⟨"PORT", .number 65535⟩,
        "Listen for LSP clients on this port on 127.0.0.1", ""⟩,
      ⟨some 'v', "verbose", none, "Verbose logging", ""⟩]
  hasVersion := true

/-- How the server is reached. -/
inductive Launch where
  | stdio
  | listen (address : Text)
  deriving DecidableEq, Repr

/-- The labels of the options that say where to listen, in the order in which they were given; no
two of them go together. -/
def places (r : Reading) : List String :=
  r.options.filterMap fun given =>
    (launchGrammar.ofLong? given.1.toList).bind fun o =>
      if o.value.isSome then some o.label else none

/-- What a command line asks for. -/
def readLaunch (arguments : List Text) : Except Stop Launch := do
  let (r, _) ← launchGrammar.read false arguments {}
  let r ← r.settle launchGrammar
  match places r with
  | first :: second :: _ => .error (.refused (.conflict first second))
  | _ =>
    match r.value? "lsp-addr", r.value? "port" with
    | some address, _ => return .listen address
    | none, some port => return .listen ("127.0.0.1:".toList ++ port)
    | none, none => return .stdio

end GraphLint.Command
