import GraphLint.Text.Split
/-! # Lines

A text is cut into lines at every line feed and nowhere else, so a text with `n` line feeds
has `n + 1` lines and a carriage return is an ordinary character of its line. -/
namespace GraphLint.Text

/-- The lines of a text: the runs between its line feeds. -/
def lines (t : Text) : List Text := splitAt '\n' t

/-- The text whose lines these are. -/
def joinLines (ls : List Text) : Text := joinWith '\n' ls

theorem lines_ne_nil (t : Text) : lines t ≠ [] := splitAt_ne_nil _ t

/-- Cutting a text into lines loses nothing. -/
theorem joinLines_lines (t : Text) : joinLines (lines t) = t := joinWith_splitAt _ t

/-- The number of spaces a line starts with. -/
def indentation (line : Text) : Nat := (line.takeWhile (· == ' ')).length

/-- Whether a character is a space or a tab. -/
def isSpaceOrTab (c : Char) : Bool := c == ' ' || c == '\t'

/-- A line without the spaces and tabs it starts with. -/
def dropSpaces (line : Text) : Text := line.dropWhile isSpaceOrTab

end GraphLint.Text
