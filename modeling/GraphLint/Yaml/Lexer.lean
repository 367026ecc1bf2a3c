import GraphLint.Yaml.Tag
import GraphLint.Yaml.Scalar.Plain
import GraphLint.Yaml.Scalar.Quoted
import GraphLint.Yaml.Scalar.Block
/-! # From a stream to its tokens

The lexer reads one token after another.  Two things are not plain from the characters at hand.

*Indentation.*  Outside brackets a token on a new column opens or closes block collections; the
columns of the collections that are open form a stack.

*Implicit keys.*  A token may turn out to be the start of a key, once a colon follows on the same
line and within 1024 characters.  Each nesting level of brackets has at most one such
*candidate*.  Tokens from a candidate on are held back, so that the tokens that make it a key can
still be put before it; all other tokens are released.

The tokens released before a fault are part of the answer: what they say comes first. -/
namespace GraphLint.Yaml

/-- A token that a colon would turn into the start of a key. -/
structure Candidate where
  /-- Whether nothing but a key can start here. -/
  required : Bool
  /-- The number of tokens before it. -/
  number : Nat
  mark : Mark
  deriving DecidableEq, Repr

namespace Candidate

/-- How many characters a key may be away from its colon. -/
def reach : Nat := 1024

/-- Whether a place is too far from a candidate for its colon. -/
def isStale (k : Candidate) (here : Mark) : Bool :=
  k.mark.line < here.line || k.mark.index + reach < here.index

end Candidate

/-- A lexer at work. -/
structure Lexer where
  cursor : Cursor
  /-- The candidate at the current nesting level. -/
  candidate : Option Candidate
  /-- The candidates at the outer nesting levels, innermost first: one for each open bracket. -/
  outer : List (Option Candidate)
  /-- The column of the innermost block collection, and -1 outside all of them. -/
  indent : Int
  /-- The columns of the block collections around it. -/
  outerIndents : List Int
  /-- Whether an implicit key may start at the cursor. -/
  keyAllowed : Bool
  /-- How many tokens have been released. -/
  released : Nat
  /-- The tokens held back, first to last. -/
  held : List Token
  deriving Repr

namespace Lexer

/-- A lexer before a text. -/
def start (text : Text) : Lexer :=
  let cursor : Cursor := ⟨text, .origin⟩
  ⟨if cursor.sees '\ufeff' then cursor.forward 1 else cursor, none, [], -1, [], true, 0, []⟩

/-- Whether the cursor stands inside brackets. -/
def inFlow (l : Lexer) : Bool := !l.outer.isEmpty

/-- The place of the cursor. -/
def mark (l : Lexer) : Mark := l.cursor.mark

/-- With one more token. -/
def push (l : Lexer) (token : Token) : Lexer := { l with held := l.held ++ [token] }

/-- With one more token that has no characters. -/
def pushEmpty (l : Lexer) (kind : TokenKind) (mark : Mark) : Lexer := l.push ⟨kind, mark, mark⟩

/-- With a token put before the one that has the given number. -/
def insertAt (l : Lexer) (number : Nat) (kind : TokenKind) (mark : Mark) : Lexer :=
  let place := number - l.released
  { l with held := l.held.take place ++ ⟨kind, mark, mark⟩ :: l.held.drop place }

/-- With the token of the next `n` characters. -/
def pushIndicator (l : Lexer) (kind : TokenKind) (n : Nat) : Lexer :=
  let cursor := l.cursor.forward n
  { l.push ⟨kind, l.mark, cursor.mark⟩ with cursor }

/-! ## Candidates -/

/-- A candidate that is too far away is none any more; a required one is missed. -/
def expire (here : Mark) (k : Option Candidate) : Except Fault (Option Candidate) :=
  match k with
  | none => .ok none
  | some k =>
    if k.isStale here then
      if k.required then .error (.within .simpleKey k.mark .simpleKeyWithoutColon here)
      else .ok none
    else .ok (some k)

/-- Drops the candidates that are too far away, the outermost one first. -/
def expireAll (l : Lexer) : Except Fault Lexer := do
  let outer ← l.outer.reverse.mapM (expire l.mark)
  let candidate ← expire l.mark l.candidate
  return { l with outer := outer.reverse, candidate }

/-- Gives up the candidate of the current level. -/
def dropCandidate (l : Lexer) : Except Fault Lexer :=
  match l.candidate with
  | none => .ok l
  | some k =>
    if k.required then .error (.within .simpleKey k.mark .simpleKeyWithoutColon l.mark)
    else .ok { l with candidate := none }

/-- Makes the next token a candidate, if a key may start here. -/
def addCandidate (l : Lexer) : Except Fault Lexer := do
  if l.keyAllowed then
    let l ← l.dropCandidate
    let required := !l.inFlow && l.indent == l.mark.column
    return { l with candidate := some ⟨required, l.released + l.held.length, l.mark⟩ }
  else return l

/-! ## Block collections -/

/-- Closes the block collections that stand deeper than a column. -/
def closeBlocks (l : Lexer) (column : Int) : Lexer :=
  if l.inFlow || l.indent ≤ column then l
  else go l l.indent l.outerIndents
where
  /-- Closes collections while the innermost one, at `indent`, is deeper than the column. -/
  go (l : Lexer) (indent : Int) : List Int → Lexer
    | [] => { l with indent, outerIndents := [] }
    | next :: rest =>
      if column < indent then go (l.pushEmpty .blockEnd l.mark) next rest
      else { l with indent, outerIndents := next :: rest }

/-- Opens a block collection at a column, unless one is open there.  Its token stands before the
token with the given number, or at the end. -/
def openBlock (l : Lexer) (column : Nat) (number : Option Nat) (kind : TokenKind) (mark : Mark) :
    Lexer :=
  if l.inFlow || (column : Int) ≤ l.indent then l
  else
    let l := { l with indent := column, outerIndents := l.indent :: l.outerIndents }
    match number with
    | some number => l.insertAt number kind mark
    | none => l.pushEmpty kind mark

/-! ## One token -/

/-- Past the white space, the comments and the line breaks before the next token, at most `fuel`
lines.  Tabs are white space only where no implicit key may start. -/
def skipBlank : (fuel : Nat) → Lexer → Lexer
  | 0, l => l
  | fuel + 1, l =>
    let tabs := l.inFlow || !l.keyAllowed
    let cursor := (l.cursor.skipWhile fun c => c == ' ' || (tabs && c == '\t')).skipComment
    if cursor.breakAt 0 then
      skipBlank fuel
        { l with cursor := cursor.skipBreak, keyAllowed := l.keyAllowed || !l.inFlow }
    else { l with cursor }

/-- Closes all block collections before a token that stands outside the documents. -/
def leaveDocument (l : Lexer) : Except Fault Lexer := do
  let l ← (l.closeBlocks (-1)).dropCandidate
  return { l with keyAllowed := false }

/-- The end of the stream, which is at the start of a line. -/
def lexEnd (l : Lexer) : Except Fault Lexer := do
  let mark : Mark := if l.mark.column = 0 then l.mark else ⟨l.mark.index, l.mark.line + 1, 0⟩
  let l ← leaveDocument { l with cursor := { l.cursor with mark } }
  return l.pushEmpty .streamEnd mark

/-- A directive. -/
def lexDirective (l : Lexer) : Except Fault Lexer := do
  let l ← l.leaveDocument
  let (token, cursor) ← scanDirective l.cursor
  return { l.push token with cursor }

/-- A document indicator. -/
def lexDocumentIndicator (l : Lexer) (kind : TokenKind) : Except Fault Lexer := do
  return (← l.leaveDocument).pushIndicator kind 3

/-- An opening bracket. -/
def lexFlowStart (l : Lexer) (kind : TokenKind) : Except Fault Lexer := do
  let l ← l.addCandidate
  return { l.pushIndicator kind 1 with
    candidate := none, outer := l.candidate :: l.outer, keyAllowed := true }

/-- A closing bracket. -/
def lexFlowEnd (l : Lexer) (kind : TokenKind) : Except Fault Lexer := do
  let l ← l.dropCandidate
  let l := match l.outer with
    | [] => l
    | candidate :: outer => { l with candidate, outer }
  return { l.pushIndicator kind 1 with keyAllowed := false }

/-- A comma inside brackets. -/
def lexFlowEntry (l : Lexer) : Except Fault Lexer := do
  return { (← l.dropCandidate).pushIndicator .flowEntry 1 with keyAllowed := true }

/-- Opens a block collection at the cursor, where a key or an entry must be allowed. -/
def openBlockHere (l : Lexer) (problem : Problem) (kind : TokenKind) : Except Fault Lexer :=
  if l.inFlow then .ok l
  else if l.keyAllowed then .ok (l.openBlock l.mark.column none kind l.mark)
  else .error (.at problem l.mark)

/-- The dash of a sequence entry. -/
def lexBlockEntry (l : Lexer) : Except Fault Lexer := do
  let l ← (← l.openBlockHere .blockEntryNotAllowed .blockSequenceStart).dropCandidate
  return { l.pushIndicator .blockEntry 1 with keyAllowed := true }

/-- The question mark of an explicit key. -/
def lexKey (l : Lexer) : Except Fault Lexer := do
  let l ← (← l.openBlockHere .keyNotAllowed .blockMappingStart).dropCandidate
  return { l.pushIndicator .key 1 with keyAllowed := !l.inFlow }

/-- The colon before a value, which turns a candidate into a key. -/
def lexValue (l : Lexer) : Except Fault Lexer := do
  match l.candidate with
  | some k =>
    let l := l.insertAt k.number .key k.mark
    let l := l.openBlock k.mark.column (some k.number) .blockMappingStart k.mark
    return { l.pushIndicator .value 1 with candidate := none, keyAllowed := false }
  | none =>
    let l ← l.openBlockHere .valueNotAllowed .blockMappingStart
    return { l.pushIndicator .value 1 with keyAllowed := !l.inFlow }

/-- A token that may start an implicit key. -/
def lexWord (l : Lexer) (scan : Cursor → Except Fault (Token × Cursor)) : Except Fault Lexer := do
  let l ← l.addCandidate
  let (token, cursor) ← scan l.cursor
  return { l.push token with cursor, keyAllowed := false }

/-- A plain scalar; after a line break a key may follow it. -/
def lexPlain (l : Lexer) : Except Fault Lexer := do
  let l ← l.addCandidate
  let (token, broken, cursor) ← scanPlain l.inFlow (l.indent + 1).toNat l.cursor
  return { l.push token with cursor, keyAllowed := broken }

/-- A block scalar. -/
def lexBlockScalar (l : Lexer) (fold : Bool) : Except Fault Lexer := do
  let l ← l.dropCandidate
  let (token, cursor) ← scanBlock fold l.indent l.cursor
  return { l.push token with cursor, keyAllowed := true }

/-- Whether a plain scalar may start with `c` when `next` says whether a gap follows it. -/
def startsPlain (inFlow : Bool) (c : Char) (next : Option Char) : Bool :=
  let gap := next.all fun x => Text.isSpaceOrTab x || isBreak x
  if c == '-' then !next.any Text.isSpaceOrTab
  else if c == '?' || c == ':' then !inFlow && !gap
  else
    !(Text.isSpaceOrTab c || isBreak c || isFlowIndicator c || c == '#' || c == '&' || c == '*' ||
      c == '!' || c == '|' || c == '>' || c == '\'' || c == '"' || c == '%' || c == '@' ||
      c == '`')

/-- The token that starts with `c` at the cursor, inside or outside a document. -/
def lexChar (l : Lexer) (c : Char) : Except Fault Lexer :=
  let gap := l.cursor.gapAt 1
  if l.mark.column == 0 && c == '%' then l.lexDirective
  else if l.cursor.indicatorOf '-' then l.lexDocumentIndicator .documentStart
  else if l.cursor.indicatorOf '.' then l.lexDocumentIndicator .documentEnd
  else if c == '[' then l.lexFlowStart .flowSequenceStart
  else if c == '{' then l.lexFlowStart .flowMappingStart
  else if c == ']' then l.lexFlowEnd .flowSequenceEnd
  else if c == '}' then l.lexFlowEnd .flowMappingEnd
  else if c == ',' then l.lexFlowEntry
  else if c == '-' && gap then l.lexBlockEntry
  else if c == '?' && (l.inFlow || gap) then l.lexKey
  else if c == ':' && (l.inFlow || gap) then l.lexValue
  else if c == '*' then l.lexWord (scanAnchor .reference .reference)
  else if c == '&' then l.lexWord (scanAnchor .anchor .anchor)
  else if c == '!' then l.lexWord (scanTag l.inFlow)
  else if c == '|' && !l.inFlow then l.lexBlockScalar false
  else if c == '>' && !l.inFlow then l.lexBlockScalar true
  else if c == '\'' then l.lexWord (scanQuoted false)
  else if c == '"' then l.lexWord (scanQuoted true)
  else if startsPlain l.inFlow c (l.cursor.peekAt 1) then l.lexPlain
  else .error (.within .nextToken l.mark .noToken l.mark)

/-- The next token, after those that indentation implies. -/
def next (l : Lexer) : Except Fault Lexer := do
  let l ← (l.skipBlank (l.cursor.rest.length + 1)).expireAll
  let l := l.closeBlocks l.mark.column
  match l.cursor.peek with
  | none => l.lexEnd
  | some c => l.lexChar c

/-! ## All tokens -/

/-- How many held tokens no candidate holds back. -/
def releasable (l : Lexer) : Nat :=
  (l.candidate :: l.outer).foldl
    (fun n k => match k with
      | some k => min n (k.number - l.released)
      | none => n)
    l.held.length

/-- The tokens that can be released, and the lexer without them. -/
def release (l : Lexer) : List Token × Lexer :=
  let n := l.releasable
  (l.held.take n, { l with held := l.held.drop n, released := l.released + n })

end Lexer

/-- The tokens of a stream as far as they can be read, and what ends them: the end of the stream at
a mark, or a fault. -/
structure Tokens where
  list : List Token
  ending : Except Fault Mark
  deriving Repr

namespace Tokens

/-- Tokens before other tokens. -/
def prepend (first : List Token) (rest : Tokens) : Tokens := ⟨first ++ rest.list, rest.ending⟩

/-- The tokens that a lexer reads on from where it is, in at most `fuel` steps. -/
def read : (fuel : Nat) → Lexer → Tokens
  | 0, l => ⟨[], .ok l.mark⟩
  | fuel + 1, l =>
    match (if l.held.isEmpty then .ok l else l.expireAll) with
    | .error fault => ⟨[], .error fault⟩
    | .ok l =>
      let (tokens, l) := l.release
      if tokens.any (·.kind == .streamEnd) then ⟨tokens.dropLast, .ok l.mark⟩
      else
        match l.next with
        | .error fault => ⟨tokens, .error fault⟩
        | .ok l => (read fuel l).prepend tokens

/-- The number of octets before the first character that no stream may hold. -/
def badOffset? : (offset : Nat) → Text → Option Nat
  | _, [] => none
  | offset, c :: rest => if isAllowed c then badOffset? (offset + c.utf8Size) rest else some offset

/-- The tokens of a text.  A character that no stream may hold is found before anything else. -/
def ofText (text : Text) : Tokens :=
  match badOffset? 0 text with
  | some offset => ⟨[], .error (.atOffset offset)⟩
  | none => read (text.length + 3) (.start text)

end Tokens
end GraphLint.Yaml
