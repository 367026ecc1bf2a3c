import GraphLint.Yaml.Token
/-! # Block scalars

A block scalar starts with `|`, which keeps its lines, or `>`, which folds them.  Its header may
give the indentation of its lines and say what becomes of the breaks at its end.  Without a given
indentation the first line that is not empty decides. -/
namespace GraphLint.Yaml

/-- What becomes of the line breaks at the end of a block scalar. -/
inductive Chomping where
  | strip
  | clip
  | keep
  deriving DecidableEq, Repr

/-- The chomping that a character of the header asks for. -/
def chomping? (c : Cursor) : Option Chomping :=
  if c.sees '+' then some .keep else if c.sees '-' then some .strip else none

/-- The indentation that a digit of the header asks for. -/
def scanIncrement (since : Mark) (c : Cursor) : Except Fault (Option Nat × Cursor) :=
  match c.peek with
  | some d =>
    if d = '0' then .error (.within .blockScalar since .blockIndentationZero c.mark)
    else if isDigit d then .ok (some (d.toNat - '0'.toNat), c.forward 1)
    else .ok (none, c)
  | none => .ok (none, c)

/-- The header of a block scalar, without its first character: chomping and indentation in either
order. -/
def scanBlockHeader (since : Mark) (c : Cursor) :
    Except Fault (Chomping × Option Nat × Cursor) := do
  match chomping? c with
  | some chomping =>
    let (increment, c) ← scanIncrement since (c.forward 1)
    return (chomping, increment, c)
  | none =>
    let (increment, c) ← scanIncrement since c
    match increment, chomping? c with
    | some _, some chomping => return (chomping, increment, c.forward 1)
    | _, _ => return (.clip, increment, c)

/-- Reads empty lines and the indentation of the next line, in at most `fuel` lines.  Without an
`indent` every space counts as indentation, and `widest` is the most seen.  The breaks come with
the last one first; `stop` is the mark after the last of them. -/
def blockBreaks (since : Mark) (indent : Option Nat) :
    (fuel : Nat) → (widest : Nat) → (breaks : Text) → (stop : Mark) → Cursor →
      Except Fault (Nat × Text × Mark × Cursor)
  | 0, widest, breaks, stop, c => .ok (widest, breaks, stop, c)
  | fuel + 1, widest, breaks, stop, c =>
    let spaces := (c.rest.takeWhile (· == ' ')).length
    let eaten := match indent with
      | some n => min spaces (n - c.mark.column)
      | none => spaces
    let c := c.forward eaten
    let widest := max widest c.mark.column
    if indent.all (c.mark.column < ·) && c.sees '\t' then
      .error (.within .blockScalar since .blockTab c.mark)
    else
      match c.breakChar? with
      | none => .ok (widest, breaks, stop, c)
      | some b =>
        let c := c.skipBreak
        blockBreaks since indent fuel widest (b :: breaks) c.mark c

/-- What has been read of a block scalar; the texts start with their last characters. -/
structure BlockState where
  text : Text
  /-- The break that ended the last line. -/
  lead : Text
  /-- The empty lines after it. -/
  breaks : Text
  /-- Whether the last line starts with a space or a tab, so that it is not folded. -/
  blankLine : Bool
  stop : Mark
  cursor : Cursor

/-- The lines of a block scalar, at most `fuel` of them. -/
def blockLines (fold : Bool) (since : Mark) (indent : Nat) :
    (fuel : Nat) → BlockState → Except Fault BlockState
  | 0, s => .ok s
  | fuel + 1, s =>
    if s.cursor.mark.column = indent && !s.cursor.atEnd then do
      let blank := s.cursor.spaceAt 0
      let joined :=
        if fold && s.lead == ['\n'] && !s.blankLine && !blank then
          if s.breaks.isEmpty then [' '] else s.breaks
        else s.breaks ++ s.lead
      let (line, c) := s.cursor.takeWhile (!isBreak ·)
      let lead := c.breakChar?.toList
      let (_, breaks, stop, cursor) ←
        blockBreaks since (some indent) (c.rest.length + 1) 0 [] c.skipBreak.mark c.skipBreak
      blockLines fold since indent fuel
        ⟨line.reverse ++ joined ++ s.text, lead, breaks, blank, stop, cursor⟩
    else .ok s

/-- A block scalar whose parent is indented by `parent`, which is negative at the top. -/
def scanBlock (fold : Bool) (parent : Int) (c : Cursor) : Except Fault (Token × Cursor) := do
  let since := c.mark
  let (chomping, increment, c) ← scanBlockHeader since (c.forward 1)
  let c := c.skipSpaces.skipComment
  if !c.breakOrEndAt 0 then .error (.within .blockScalar since .blockHeaderTail c.mark)
  else
    let c := c.skipBreak
    let given := increment.map fun n => n + parent.toNat
    let (widest, breaks, stop, c) ← blockBreaks since given (c.rest.length + 1) 0 [] c.mark c
    let indent := given.getD (max widest (max (parent + 1).toNat 1))
    let s ← blockLines fold since indent (c.rest.length + 1) ⟨[], [], breaks, false, stop, c⟩
    let tail := match chomping with
      | .strip => []
      | .clip => s.lead
      | .keep => s.breaks ++ s.lead
    let style := if fold then Style.folded else .literal
    return (⟨.scalar (tail ++ s.text).reverse style, since, s.stop⟩, s.cursor)

end GraphLint.Yaml
