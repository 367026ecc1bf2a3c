import GraphLint.Yaml.Scalar.Gap
/-! # Quoted scalars

A single-quoted scalar writes a quote twice and has no other escapes.  A double-quoted scalar has
escapes for single characters, for characters by number, and for a line break.  Both may run over
several lines, whose breaks are folded. -/
namespace GraphLint.Yaml

/-- The character that a one-letter escape stands for. -/
def simpleEscape? (c : Char) : Option Char :=
  match c with
  | '0' => some '\x00'
  | 'a' => some '\x07'
  | 'b' => some '\x08'
  | 't' | '\t' => some '\t'
  | 'n' => some '\n'
  | 'v' => some '\x0b'
  | 'f' => some '\x0c'
  | 'r' => some '\r'
  | 'e' => some '\x1b'
  | ' ' => some ' '
  | '"' => some '"'
  | '/' => some '/'
  | '\\' => some '\\'
  | 'N' => some '\u0085'
  | '_' => some '\u00a0'
  | 'L' => some '\u2028'
  | 'P' => some '\u2029'
  | _ => none

/-- The number of hexadecimal digits of an escape by number. -/
def escapeLength? (c : Char) : Option Nat :=
  match c with
  | 'x' => some 2
  | 'u' => some 4
  | 'U' => some 8
  | _ => none

/-- The character with a number, if there is one. -/
def charOfNumber? (n : Nat) : Option Char :=
  if h : n.isValidChar then some (Char.ofNatAux n h) else none

/-- The character escaped at a cursor that stands before the backslash. -/
def scanEscape (since : Mark) (c : Cursor) : Except Fault (Char × Cursor) :=
  match c.peekAt 1 with
  | none => .error (.within .quotedEscape since .unknownEscape c.mark)
  | some x =>
    match simpleEscape? x, escapeLength? x with
    | some stands, _ => .ok (stands, c.forward 2)
    | none, none => .error (.within .quotedEscape since .unknownEscape c.mark)
    | none, some length =>
      let c := c.forward 2
      let digits := c.rest.take length
      match (if digits.length = length then Text.numberOf? 16 digits else none) with
      | none => .error (.within .quotedEscape since .escapeDigits c.mark)
      | some n =>
        match charOfNumber? n with
        | none => .error (.within .quotedEscape since .escapeCharacter c.mark)
        | some stands => .ok (stands, c.forward length)

/-- One word of a quoted scalar in at most `fuel` characters, the last character first, with
whether an escaped line break ended it. -/
def quotedWord (double : Bool) (since : Mark) :
    (fuel : Nat) → (word : Text) → Cursor → Except Fault (Text × Bool × Cursor)
  | 0, word, c => .ok (word, false, c)
  | fuel + 1, word, c =>
    match c.peek with
    | none => .ok (word, false, c)
    | some x =>
      if Text.isSpaceOrTab x || isBreak x then .ok (word, false, c)
      else if double then
        if x = '"' then .ok (word, false, c)
        else if x = '\\' then
          if c.breakAt 1 then .ok (word, true, (c.forward 1).skipBreak)
          else do
            let (stands, c) ← scanEscape since c
            quotedWord double since fuel (stands :: word) c
        else quotedWord double since fuel (x :: word) (c.forward 1)
      else if x = '\'' then
        if c.peekAt 1 == some '\'' then quotedWord double since fuel ('\'' :: word) (c.forward 2)
        else .ok (word, false, c)
      else quotedWord double since fuel (x :: word) (c.forward 1)

/-- The words of a quoted scalar, at most `fuel` of them, up to the closing quote, the last
character first. -/
def quotedWords (double : Bool) (since : Mark) :
    (fuel : Nat) → (text : Text) → Cursor → Except Fault (Text × Cursor)
  | 0, text, c => .ok (text, c)
  | fuel + 1, text, c =>
    if c.atDocumentIndicator then
      .error (.within .quotedScalar since .quotedIndicator c.mark)
    else if c.atEnd then .error (.within .quotedScalar since .quotedEnd c.mark)
    else do
      let (text, escaped, c) ← quotedWord double since (c.rest.length + 1) text c
      if c.sees (if double then '"' else '\'') then return (text, c.forward 1)
      else
        match scanGap none c.rest c.mark (if escaped then .escaped else .none) with
        | .error tab => .error (.within .quotedScalar since .plainTab tab)
        | .ok (gap, c) =>
          quotedWords double since fuel ((gap.fold escaped).reverse ++ text) c

/-- A quoted scalar. -/
def scanQuoted (double : Bool) (c : Cursor) : Except Fault (Token × Cursor) := do
  let (text, after) ← quotedWords double c.mark (c.rest.length + 1) [] (c.forward 1)
  let style := if double then Style.doubleQuoted else .singleQuoted
  return (⟨.scalar text.reverse style, c.mark, after.mark⟩, after)

end GraphLint.Yaml
