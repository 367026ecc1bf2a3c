import GraphLint.Expression.Marker
/-! # The section around a cursor

Where in a graph definition a cursor stands, inferred from indentation alone.  Upwards from the line
of the cursor, the first line that is indented less decides; a cursor between an opening marker and
its end is inside an expression, whatever stands above. -/
namespace GraphLint

/-- The parts of a graph definition that completion tells apart. -/
inductive Section where
  | topLevel
  | spec
  | resources
  | relations
  | parameters
  | expression
  deriving DecidableEq, Repr

namespace Section

/-- The word for a section. -/
def word : Section → String
  | .topLevel => "top-level"
  | .spec => "spec"
  | .resources => "resources"
  | .relations => "relations"
  | .parameters => "parameters"
  | .expression => "expression"

/-- The section that a line, without the white space around it, is the header of. -/
def ofHeader (line : Text) : Section :=
  if "resources:".toList.isPrefixOf line then .resources
  else if "relations:".toList.isPrefixOf line then .relations
  else if "parameters:".toList.isPrefixOf line then .parameters
  else .topLevel

/-- The search for the line that decides, from the line above the cursor upwards. -/
structure Search where
  /-- The indentation of the cursor's line. -/
  indent : Nat
  found : Option Section
  deriving DecidableEq, Repr

namespace Search

/-- A search for a cursor on a line with an indentation. -/
def start (indent : Nat) : Search := ⟨indent, none⟩

/-- After one more line.  A line decides if it is indented less than the cursor's. -/
def observe (s : Search) (indent : Nat) (line : Text) : Search :=
  if s.found.isSome || s.indent ≤ indent then s else { s with found := some (ofHeader line) }

/-- The section found so far. -/
def result (s : Search) : Section := s.found.getD .topLevel

/-- After one more line as it stands in the text. -/
def observeLine (s : Search) (line : Text) : Search :=
  s.observe (Text.indentation line) (Text.trim line)

end Search

/-- The section of a cursor, and the text before it on its line. -/
structure Context where
  place : Section
  before : Text
  deriving DecidableEq, Repr

/-- What follows the last opening marker of a text. -/
def afterLastMarker? : Text → Option Text
  | [] => none
  | c :: rest =>
    match afterLastMarker? rest with
    | some tail => some tail
    | none => Text.after? Expression.openMarker (c :: rest)

/-- Whether the last opening marker of a text has no closing marker after it. -/
def endsInExpression (before : Text) : Bool :=
  (afterLastMarker? before).any fun tail => !Text.occurs Expression.closeMarker tail

/-- The section of a cursor with the given indentation below some lines, the nearest line first. -/
def searchUp (indent : Nat) (above : List Text) : Section :=
  (above.foldl Search.observeLine (.start indent)).result

/-- The context of a position among lines.  Past the last line it is the top level. -/
def contextInLines (lines : List Text) (position : Position) : Context :=
  match lines[position.line.toNat]? with
  | none => ⟨.topLevel, []⟩
  | some line =>
    let before := line.take position.character.toNat
    if endsInExpression before then ⟨.expression, before⟩
    else
      let above := (lines.take position.line.toNat).reverse
      ⟨searchUp (Text.indentation line) above, before⟩

/-- The context of a position in a text. -/
def contextAt (text : Text) (position : Position) : Context :=
  contextInLines (Text.lines text) position

end Section
end GraphLint
