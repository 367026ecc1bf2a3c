import GraphLint.Yaml.Scalar.Gap
/-! # Plain scalars

A plain scalar has no quotes.  It ends at a comment, at a document indicator, before a colon with
a gap after it, in the flow context before a flow indicator, and, outside it, at a line that is
indented less than its parent allows. -/
namespace GraphLint.Yaml

/-- Whether a character ends every plain scalar of the flow context. -/
def isFlowIndicator (c : Char) : Bool :=
  c == ',' || c == '[' || c == ']' || c == '{' || c == '}'

/-- Whether a text starts with a gap or is empty. -/
def startsWithGap : Text → Bool
  | [] => true
  | c :: _ => Text.isSpaceOrTab c || isBreak c

/-- One word of a plain scalar, with the text after it; nothing when a colon stands directly
before a flow indicator. -/
def plainWord? (inFlow : Bool) : Text → Option (Text × Text)
  | [] => some ([], [])
  | c :: rest =>
    if Text.isSpaceOrTab c || isBreak c then some ([], c :: rest)
    else if inFlow && c == ':' && rest.head?.any (fun x => isFlowIndicator x || x == '?') then
      none
    else if (c == ':' && startsWithGap rest) || (inFlow && isFlowIndicator c) then
      some ([], c :: rest)
    else (plainWord? inFlow rest).map fun (word, after) => (c :: word, after)

/-- The length of the word that a colon directly before a flow indicator spoils. -/
def spoiledLength : Text → Nat
  | [] => 0
  | c :: rest =>
    if c == ':' && rest.head?.any (fun x => isFlowIndicator x || x == '?') then 0
    else spoiledLength rest + 1

/-- What has been read of a plain scalar. -/
structure PlainState where
  /-- The characters of the scalar, the last one first. -/
  text : Text
  /-- Where its last word ends. -/
  stop : Mark
  gap : Gap
  cursor : Cursor

/-- The words of a plain scalar from a state on, at most `fuel` of them. -/
def plainWords (inFlow : Bool) (indent : Nat) (since : Mark) :
    (fuel : Nat) → PlainState → Except Fault PlainState
  | 0, s => .ok s
  | fuel + 1, s =>
    if s.cursor.atDocumentIndicator || s.cursor.sees '#' then .ok s
    else
      match plainWord? inFlow s.cursor.rest with
      | none =>
        .error (.within .plainScalar since .plainColon
          (s.cursor.mark.forward (spoiledLength s.cursor.rest)))
      | some (word, rest) =>
        let mark := s.cursor.mark.forward word.length
        let s : PlainState :=
          if word.isEmpty then s
          else ⟨word.reverse ++ (s.gap.fold false).reverse ++ s.text, mark, .none, ⟨rest, mark⟩⟩
        if startsWithGap rest && !rest.isEmpty then
          match scanGap (some indent) rest mark s.gap with
          | .error tab => .error (.within .plainScalar since .plainTab tab)
          | .ok (gap, cursor) =>
            let s := { s with gap, cursor }
            if !inFlow && cursor.mark.column < indent then .ok s
            else plainWords inFlow indent since fuel s
        else .ok s

/-- A plain scalar, and whether a line ended after its last word.  `indent` is the least column
that its lines may have outside the flow context. -/
def scanPlain (inFlow : Bool) (indent : Nat) (c : Cursor) :
    Except Fault (Token × Bool × Cursor) := do
  let s ← plainWords inFlow indent c.mark (c.rest.length + 1) ⟨[], c.mark, .none, c⟩
  return (⟨.scalar s.text.reverse .plain, c.mark, s.stop⟩, s.gap.broken, s.cursor)

end GraphLint.Yaml
