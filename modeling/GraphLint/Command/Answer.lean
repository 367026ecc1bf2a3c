import GraphLint.Command.Help
import GraphLint.Report
/-! # Answers to a command line

What a program prints, and the code it ends with, when its command line is not run but answered: by a
help text, by the version, or by a refusal. -/
namespace GraphLint.Command
open Styled

/-- What a program prints and the code it ends with. -/
structure Printed where
  exitCode : Nat
  output : Styled := []
  errors : Styled := []
  deriving DecidableEq, Repr

/-- The answer of a program to a command line whose reading was ended. -/
def Stop.answer (program : String) : Stop → Printed
  | refused r => ⟨2, [], within .refusal "error:" ++ plain " " ++ r.message ++ plain "\n"⟩
  | help g long => ⟨0, g.help long, []⟩
  | nothingGiven g => ⟨2, [], g.help false⟩
  | version => ⟨0, plain (program ++ " " ++ Report.version ++ "\n"), []⟩

end GraphLint.Command
