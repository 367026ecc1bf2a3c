import GraphLint.Yaml.Token
/-! # Gaps between the words of a scalar

Inside a flow scalar the words are separated by gaps of spaces, tabs and line breaks.  A gap
within a line stands for itself.  A gap with line breaks is *folded*: one line feed stands for a
space, further breaks stand for themselves, and spaces around the breaks stand for nothing. -/
namespace GraphLint.Yaml

/-- What a gap holds: the spaces before its first line break, then the characters of the breaks.
Both lists start with the last character read. -/
structure Gap where
  spaces : Text
  breaks : Text
  /-- Whether a line has ended in the gap. -/
  broken : Bool
  deriving Repr

namespace Gap

/-- The gap of no characters. -/
def none : Gap := ⟨[], [], false⟩

/-- The gap after an escaped line break, which stands for nothing itself. -/
def escaped : Gap := ⟨[], [], true⟩

/-- A gap with one more space or tab. -/
def space (g : Gap) (c : Char) : Gap :=
  if g.broken then g else { g with spaces := c :: g.spaces }

/-- A gap with one more line break. -/
def lineBreak (g : Gap) (c : Char) : Gap :=
  if g.broken then { g with breaks := c :: g.breaks } else ⟨[], [c], true⟩

/-- What breaks stand for, the first of them counted as a folded one. -/
def foldBreaks : Text → Text
  | '\n' :: [] => [' ']
  | '\n' :: rest => rest
  | breaks => breaks

/-- What a gap stands for.  After an escaped line break no further break is folded. -/
def fold (escapedBreak : Bool) (g : Gap) : Text :=
  if g.broken then
    if escapedBreak then g.breaks.reverse else foldBreaks g.breaks.reverse
  else g.spaces.reverse

end Gap

/-- Reads a gap on from `g`.  With a `limit`, a tab before that column of a later line is an
error, and the mark of the tab is the answer. -/
def scanGap (limit : Option Nat) : Text → Mark → Gap → Except Mark (Gap × Cursor)
  | [], m, g => .ok (g, ⟨[], m⟩)
  | '\r' :: '\n' :: rest, m, g => scanGap limit rest (m.nextLine 2) (g.lineBreak '\n')
  | c :: rest, m, g =>
    if Text.isSpaceOrTab c then
      if c == '\t' && g.broken && limit.any (m.column < ·) then .error m
      else scanGap limit rest (m.forward 1) (g.space c)
    else if isBreak c then
      let stands := if c == '\u2028' || c == '\u2029' then c else '\n'
      scanGap limit rest (m.nextLine 1) (g.lineBreak stands)
    else .ok (g, ⟨c :: rest, m⟩)

end GraphLint.Yaml
