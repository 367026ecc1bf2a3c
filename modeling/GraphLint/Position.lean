import GraphLint.Text.Lines
/-! # Positions and ranges

A position counts lines and characters from zero; a character is one Unicode scalar value.
Both numbers are 32-bit words, as editors exchange them, so a position taken from a text is
exact as long as the text has fewer than `2 ^ 32` lines and characters per line. -/
namespace GraphLint

/-- A place in a document: a line and a number of characters into it. -/
structure Position where
  line : UInt32
  character : UInt32
  deriving DecidableEq, Repr, Inhabited

namespace Position

/-- The position of a line index and a character index, taken as words. -/
def ofNat (line character : Nat) : Position :=
  ⟨UInt32.ofNat line, UInt32.ofNat character⟩

/-- Positions are ordered by line, then by character. -/
def le (p q : Position) : Bool :=
  p.line < q.line || (p.line == q.line && p.character ≤ q.character)

end Position

/-- The characters from `start` up to, and without, `stop`. -/
structure Range where
  start : Position
  stop : Position
  deriving DecidableEq, Repr, Inhabited

namespace Range

/-- The empty range at the start of a line. -/
def lineStart (line : UInt32) : Range := ⟨⟨line, 0⟩, ⟨line, 0⟩⟩

/-- The number of characters of a line, without the carriage returns that end it. -/
def width (line : Text) : Nat := (Text.trimEndChar '\r' line).length

/-- The whole of a line of a text, from its first character to its last one; a line past the
end of the text is empty. -/
def fullLine (text : Text) (line : UInt32) : Range :=
  let length := ((Text.lines text)[line.toNat]?.map width).getD 0
  ⟨⟨line, 0⟩, ⟨line, UInt32.ofNat length⟩⟩

end Range
end GraphLint
