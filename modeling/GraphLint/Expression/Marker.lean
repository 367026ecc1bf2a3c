import GraphLint.Diagnostic
/-! # Marker pairs

An embedded expression stands between the markers `{{` and `}}`.  A *marker pair* is an
opening marker, a body without `}`, and a closing marker, so a pair ends at the nearest closing
brace.  `segments` reads a text from left to right and cuts it into marker pairs and single
characters; pairs do not overlap, and the leftmost one wins.

Two readings rest on it.  The *locator* `spans` reads each line on its own and reports where
its pairs stand.  The *neutraliser* `neutralise` reads the whole text at once, so that a pair
may run over several lines, and puts one quoted literal in the place of every pair. -/
namespace GraphLint.Expression

/-- The marker that opens an expression. -/
def openMarker : Text := ['{', '{']

/-- The marker that closes an expression. -/
def closeMarker : Text := ['}', '}']

/-- The body of the marker pair that a text starts with, if it starts with one. -/
def pairBody? : Text → Option Text
  | '{' :: '{' :: rest =>
    match rest.span (· != '}') with
    | (body, '}' :: '}' :: _) => some body
    | _ => none
  | _ => none

/-- A piece of a text: one character outside all marker pairs, or one marker pair. -/
inductive Segment where
  | plain (c : Char)
  | pair (body : Text)
  deriving DecidableEq, Repr

/-- The text that a segment stands for. -/
def Segment.text : Segment → Text
  | .plain c => [c]
  | .pair body => openMarker ++ body ++ closeMarker

/-- The segments of a text, once `skip` more characters of a pair already found have passed. -/
def segmentsAfter : (skip : Nat) → Text → List Segment
  | _, [] => []
  | skip + 1, _ :: rest => segmentsAfter skip rest
  | 0, c :: rest =>
    match pairBody? (c :: rest) with
    | some body => .pair body :: segmentsAfter (body.length + 3) rest
    | none => .plain c :: segmentsAfter 0 rest

/-- A text as its marker pairs and the characters between them, from left to right. -/
def segments (text : Text) : List Segment := segmentsAfter 0 text

/-- The literal that stands for an expression while the text is read as YAML. -/
def placeholder : Text := "'CEL_EXPRESSION'".toList

/-- The text with every marker pair replaced by `replacement`. -/
def replacePairs (replacement text : Text) : Text :=
  (segments text).flatMap fun
    | .plain c => [c]
    | .pair _ => replacement

/-- The text with every marker pair neutralised, whatever the pair holds. -/
def neutralise (text : Text) : Text := replacePairs placeholder text

/-- One expression found in a document: where it stands, and what stands between its markers. -/
structure Span where
  range : Range
  inner : Text
  deriving DecidableEq, Repr

/-- The text of an expression, markers included. -/
def Span.text (span : Span) : Text := openMarker ++ span.inner ++ closeMarker

/-- An expression's text without one opening marker at its start, one closing marker at its end
and the white space around what is left. -/
def bodyOf (raw : Text) : Text :=
  let raw := (Text.after? openMarker raw).getD raw
  let raw := (Text.before? closeMarker raw).getD raw
  Text.trim raw

/-- What the expression checks look at. -/
def Span.body (span : Span) : Text := bodyOf span.text

/-- The spans among the segments of a line, the first of which starts at `column`. -/
def spansFrom (line : Nat) : (column : Nat) → List Segment → List Span
  | _, [] => []
  | column, .plain _ :: rest => spansFrom line (column + 1) rest
  | column, .pair body :: rest =>
    let stop := column + body.length + 4
    ⟨⟨.ofNat line column, .ofNat line stop⟩, body⟩ :: spansFrom line stop rest

/-- The expressions of one line. -/
def lineSpans (index : Nat) (line : Text) : List Span := spansFrom index 0 (segments line)

/-- The expressions of a list of lines, the first of which has the number `index`. -/
def linesSpans : (index : Nat) → List Text → List Span
  | _, [] => []
  | index, line :: rest => lineSpans index line ++ linesSpans (index + 1) rest

/-- Every expression of a document, in the order of their positions.  An opening marker that is
not closed on its own line opens nothing. -/
def spans (text : Text) : List Span := linesSpans 0 (Text.lines text)

end GraphLint.Expression
