import GraphLint.Command.Styled
/-! # When colours are on

Colours are on where a terminal shows them.  Two settings of the environment go before that, the one
that forces them before the one that forbids them. -/
namespace GraphLint.Command

/-- The settings of the environment that concern colours. -/
structure ColourSettings where
  force : Option String
  forbid : Option String
  isTerminal : Bool
  deriving DecidableEq, Repr

/-- Whether colours are on. -/
def ColourSettings.areOn (s : ColourSettings) : Bool :=
  match s.force, s.forbid with
  | some "0", none => s.isTerminal
  | some "0", some _ => false
  | some _, _ => true
  | none, some _ => false
  | none, none => s.isTerminal

end GraphLint.Command
