import GraphLint.Text.Blank
/-! # Styled text

Text for a terminal: runs of characters, each in a style.  With colours on, a run stands between the
escape codes of its style and a reset; with colours off only its characters are written. -/
namespace GraphLint.Command

/-- A style, as the parameters of its escape codes in the order in which they are written. -/
structure Style where
  codes : List String
  deriving DecidableEq, Repr

namespace Style

/-- An escape code. -/
def escape (parameters : String) : Text := '\x1b' :: '[' :: (parameters.toList ++ ['m'])

/-- The code that ends all styles. -/
def reset : Text := escape "0"

def good : Style := ⟨["1;32"]⟩
def bad : Style := ⟨["1;31"]⟩
def caution : Style := ⟨["1;33"]⟩
def notice : Style := ⟨["1;34"]⟩
def faint : Style := ⟨["2"]⟩
def hint : Style := ⟨["36"]⟩

/-- The word that opens the answer to an unusable command line. -/
def refusal : Style := ⟨["1", "31"]⟩

/-- The part of a command line that is refused. -/
def refused : Style := ⟨["33"]⟩

/-- What is to be typed as it stands. -/
def literal : Style := ⟨["1"]⟩

/-- The title of a part of a help text. -/
def title : Style := ⟨["1", "4"]⟩

end Style

/-- A run of characters in at most one style. -/
structure Run where
  style : Option Style
  text : Text
  deriving DecidableEq, Repr

/-- A text with styles. -/
abbrev Styled := List Run

namespace Styled

/-- Characters without a style. -/
def plain (s : String) : Styled := [⟨none, s.toList⟩]

/-- Characters without a style. -/
def ofText (t : Text) : Styled := [⟨none, t⟩]

/-- Characters in a style. -/
def within (style : Style) (s : String) : Styled := [⟨some style, s.toList⟩]

/-- Characters in a style. -/
def textWithin (style : Style) (t : Text) : Styled := [⟨some style, t⟩]

/-- The number of characters. -/
def width : Styled → Nat
  | [] => 0
  | r :: rest => r.text.length + width rest

/-- The characters alone. -/
def bare (s : Styled) : Text := s.flatMap (·.text)

/-- A run as it is written. -/
def writeRun (colours : Bool) (r : Run) : Text :=
  match r.style with
  | some style =>
    if colours then style.codes.flatMap Style.escape ++ r.text ++ Style.reset else r.text
  | none => r.text

/-- A text as it is written. -/
def write (colours : Bool) (s : Styled) : Text := s.flatMap (writeRun colours)

end Styled
end GraphLint.Command
