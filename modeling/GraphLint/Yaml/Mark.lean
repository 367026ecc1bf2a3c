import GraphLint.Text.Digit
import GraphLint.Text.Lines
/-! # Marks and cursors

A mark is a place in a YAML stream: the number of characters before it, its line and its column,
all from zero.  A cursor is a mark together with the text from there on; moving it past a
character and past a line break are the only two ways to change it. -/
namespace GraphLint.Yaml

/-- A place in a stream. -/
structure Mark where
  index : Nat
  line : Nat
  column : Nat
  deriving DecidableEq, Repr, Inhabited

namespace Mark

/-- The start of the stream. -/
def origin : Mark := ⟨0, 0, 0⟩

/-- Whether a mark is on the first column of the first line, where messages name no place. -/
def atTop (m : Mark) : Bool := m.line == 0 && m.column == 0

/-- Whether two marks are on the same line and column. -/
def samePlace (m n : Mark) : Bool := m.line == n.line && m.column == n.column

/-- The mark `n` characters on, on the same line. -/
def forward (m : Mark) (n : Nat) : Mark := ⟨m.index + n, m.line, m.column + n⟩

/-- The mark after a line break of `n` characters. -/
def nextLine (m : Mark) (n : Nat) : Mark := ⟨m.index + n, m.line + 1, 0⟩

/-- A mark as messages name it, from one. -/
def describe (m : Mark) : String :=
  " at line " ++ toString (m.line + 1) ++ " column " ++ toString (m.column + 1)

end Mark

/-- Whether a character breaks a line: carriage return, line feed, next line, or one of the two
Unicode separators. -/
def isBreak (c : Char) : Bool :=
  c == '\n' || c == '\r' || c == '\u0085' || c == '\u2028' || c == '\u2029'

/-- Whether a character may stand in the name of an anchor, a directive or a tag handle. -/
def isWordChar (c : Char) : Bool :=
  ('0' ≤ c && c ≤ '9') || ('A' ≤ c && c ≤ 'Z') || ('a' ≤ c && c ≤ 'z') || c == '_' || c == '-'

/-- Whether a character is a decimal digit. -/
def isDigit (c : Char) : Bool := '0' ≤ c && c ≤ '9'

/-- Whether a character may stand in a stream at all: tab, the two ASCII line breaks, and the
characters that are neither controls nor surrogates nor the last two of the basic plane. -/
def isAllowed (c : Char) : Bool :=
  let n := c.toNat
  n == 0x09 || n == 0x0A || n == 0x0D || (0x20 ≤ n && n ≤ 0x7E) || n == 0x85 ||
    (0xA0 ≤ n && n ≤ 0xD7FF) || (0xE000 ≤ n && n ≤ 0xFFFD) || 0x10000 ≤ n

/-- The rest of a stream together with the place where it starts. -/
structure Cursor where
  rest : Text
  mark : Mark
  deriving Repr, Inhabited

namespace Cursor

/-- The character `n` places on, if the stream is that long. -/
def peekAt (c : Cursor) (n : Nat) : Option Char := c.rest[n]?

/-- The next character. -/
def peek (c : Cursor) : Option Char := c.rest.head?

/-- Whether the next character is `x`. -/
def sees (c : Cursor) (x : Char) : Bool := c.rest.head? == some x

/-- Whether the stream ends here. -/
def atEnd (c : Cursor) : Bool := c.rest.isEmpty

/-- Whether the character `n` places on is a line break. -/
def breakAt (c : Cursor) (n : Nat) : Bool := (c.peekAt n).any isBreak

/-- Whether the character `n` places on is a space or a tab. -/
def spaceAt (c : Cursor) (n : Nat) : Bool := (c.peekAt n).any Text.isSpaceOrTab

/-- Whether the stream ends or breaks its line `n` places on. -/
def breakOrEndAt (c : Cursor) (n : Nat) : Bool := (c.peekAt n).all isBreak

/-- Whether the stream ends `n` places on, or goes on with a space, a tab or a line break. -/
def gapAt (c : Cursor) (n : Nat) : Bool :=
  (c.peekAt n).all fun x => Text.isSpaceOrTab x || isBreak x

/-- Past `n` characters of the current line. -/
def forward (c : Cursor) (n : Nat) : Cursor := ⟨c.rest.drop n, c.mark.forward n⟩

/-- Past one line break, if there is one; a carriage return and a line feed are one break. -/
def skipBreak (c : Cursor) : Cursor :=
  match c.rest with
  | '\r' :: '\n' :: rest => ⟨rest, c.mark.nextLine 2⟩
  | x :: rest => if isBreak x then ⟨rest, c.mark.nextLine 1⟩ else c
  | [] => c

/-- The character that the next line break stands for in a scalar: the Unicode separators stand
for themselves, every other break for a line feed. -/
def breakChar? (c : Cursor) : Option Char :=
  match c.rest.head? with
  | some x =>
    if x == '\u2028' || x == '\u2029' then some x else if isBreak x then some '\n' else none
  | none => none

/-- The longest run of characters with a property, none of which breaks a line, and the cursor
after it. -/
def takeWhile (c : Cursor) (p : Char → Bool) : Text × Cursor :=
  let run := c.rest.takeWhile p
  (run, c.forward run.length)

/-- Past the longest run of characters with a property, none of which breaks a line. -/
def skipWhile (c : Cursor) (p : Char → Bool) : Cursor := (c.takeWhile p).2

/-- Past spaces and tabs. -/
def skipSpaces (c : Cursor) : Cursor := c.skipWhile Text.isSpaceOrTab

/-- Past a comment, up to the end of its line, if one starts here. -/
def skipComment (c : Cursor) : Cursor :=
  if c.sees '#' then c.skipWhile (!isBreak ·) else c

/-- Whether a line that starts here consists of three times `x`, up to a gap. -/
def indicatorOf (c : Cursor) (x : Char) : Bool :=
  c.mark.column == 0 && c.peekAt 0 == some x && c.peekAt 1 == some x && c.peekAt 2 == some x &&
    c.gapAt 3

/-- Whether `---` or `...` stands at the start of this line. -/
def atDocumentIndicator (c : Cursor) : Bool := c.indicatorOf '-' || c.indicatorOf '.'

end Cursor
end GraphLint.Yaml
