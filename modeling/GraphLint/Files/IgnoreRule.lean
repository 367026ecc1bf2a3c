import GraphLint.Files.Path
import GraphLint.Text.Utf8
/-! # Rules of ignore files

Each line of an ignore file is a rule: a pattern of paths, relative to the directory of the file, that
a walk leaves out, or takes in again after an exclamation mark.  Patterns are matched octet by octet.
A `*` stands for octets other than the slash, a `?` for one such octet, `**` for whole components,
brackets for one octet of a set, and braces for one of several patterns.  An opening bracket that no
bracket closes stands for itself. -/
namespace GraphLint.Files.IgnoreRule

/-- A piece of a pattern. -/
inductive Piece where
  | octet (o : UInt8)
  | anyOctet
  | anyOctets
  /-- `**` at the start: nothing, or components with their slashes. -/
  | leading
  /-- `**` at the end: a slash and whatever follows. -/
  | trailing
  /-- `**` between slashes: a slash, perhaps with components and another slash after it. -/
  | between
  | set (negated : Bool) (ranges : List (UInt8 × UInt8))
  | either (branches : List (List Piece))
  deriving Repr

/-! ## Reading patterns -/

/-- A pattern while it is being read: the pieces of each open alternative, innermost first, and the
finished alternatives of its braces.  The last piece comes first everywhere. -/
structure Draft where
  pieces : List Piece
  branches : List (List Piece)
  outer : List (List Piece × List (List Piece))

namespace Draft

/-- With one more piece. -/
def push (d : Draft) (p : Piece) : Draft := { d with pieces := p :: d.pieces }

/-- With the pieces of a character. -/
def pushChar (d : Draft) (c : Char) : Draft := (Text.encodeChar c).foldl (fun d o => d.push (.octet o)) d

/-- With two single stars. -/
def pushStars (d : Draft) : Draft := (d.push .anyOctets).push .anyOctets

/-- Inside braces that open here. -/
def openBrace (d : Draft) : Draft := ⟨[], [], (d.pieces, d.branches) :: d.outer⟩

/-- At the next alternative of the braces. -/
def nextBranch (d : Draft) : Draft := { d with pieces := [], branches := d.pieces :: d.branches }

/-- After the closing brace, if braces are open.  Empty alternatives count for nothing, and braces
that hold no others stand for nothing. -/
def closeBrace? (d : Draft) : Option Draft :=
  match d.outer with
  | [] => none
  | (pieces, branches) :: outer =>
    let alternatives := (d.nextBranch.branches.filter (!·.isEmpty)).reverse.map List.reverse
    if alternatives.isEmpty then some ⟨pieces, branches, outer⟩
    else some ⟨.either alternatives :: pieces, branches, outer⟩

end Draft

/-- The octets of the first and the last character of a range, as sets take them: every octet of a
character on its own, the last of the first and the first of the last joined by the range. -/
def octetRange (first last : Char) : List (UInt8 × UInt8) :=
  let single (o : UInt8) := (o, o)
  if first = last then (Text.encodeChar first).map single
  else
    let low := Text.encodeChar first
    let high := Text.encodeChar last
    low.dropLast.map single ++ [(low.getLast?.getD 0, high.head?.getD 0)] ++ (high.drop 1).map single

/-- What stands after an opening bracket. -/
inductive Brackets (α : Type) where
  /-- A set and the text after its closing bracket. -/
  | closed (set : α) (rest : Text)
  /-- No closing bracket, so that the opening one stands for itself. -/
  | unclosed
  /-- A range whose last character comes before its first one. -/
  | disordered

/-- The ranges of a set up to its closing bracket; the last range comes first.  `dash` tells that a
dash has been read which may join the last range to the next character. -/
def readSet : (start dash : Bool) → (ranges : List (Char × Char)) → Text → Brackets (List (Char × Char))
  | _, _, _, [] => .unclosed
  | start, dash, ranges, c :: rest =>
    if c = ']' ∧ !start then .closed (if dash then ('-', '-') :: ranges else ranges) rest
    else if c = '-' ∧ !start ∧ !dash then readSet false true ranges rest
    else
      match dash, ranges with
      | true, (first, _) :: ranges =>
        if c < first then .disordered else readSet false false ((first, c) :: ranges) rest
      | _, _ => readSet false false ((c, c) :: ranges) rest

/-- The set after an opening bracket. -/
def readBrackets (t : Text) : Brackets Piece :=
  let negated := t.head?.any fun c => c == '!' || c == '^'
  let body := if negated then t.drop 1 else t
  match readSet true false [] body with
  | .closed ranges rest =>
    .closed (.set negated (ranges.reverse.flatMap fun (a, b) => octetRange a b)) rest
  | .unclosed => .unclosed
  | .disordered => .disordered

/-- Two stars after the character `last`, and the text after them. -/
def readStars (d : Draft) (last : Option Char) (rest : Text) : Draft × Text :=
  let inBraces := !d.outer.isEmpty
  let slash := rest.head? == some '/'
  if d.pieces.isEmpty then
    if rest.isEmpty || slash then (d.push .leading, rest.drop 1) else (d.pushStars, rest)
  else if last ≠ some '/' ∧ !(inBraces && (last == some ',' || last == some '{')) then
    (d.pushStars, rest)
  else
    let ends := rest.isEmpty || (inBraces && (rest.head? == some ',' || rest.head? == some '}'))
    if !ends && !slash then (d.pushStars, rest)
    else
      let piece := match d.pieces.head? with
        | some .leading => Piece.leading
        | some .trailing => .trailing
        | _ => if ends then .trailing else .between
      ({ d with pieces := piece :: d.pieces.drop 1 }, if slash then rest.drop 1 else rest)

/-- The pieces of a pattern on from a draft, where `last` is the character before it, in at most
`fuel` steps; nothing when the pattern is malformed. -/
def readPieces : (fuel : Nat) → Draft → (last : Option Char) → Text → Option (List Piece)
  | 0, _, _, _ => none
  | _, d, _, [] => if d.outer.isEmpty then some d.pieces.reverse else none
  | fuel + 1, d, last, c :: rest =>
    if c = '?' then readPieces fuel (d.push .anyOctet) (some c) rest
    else if c = '*' then
      if rest.head? = some '*' then
        let (d, after) := readStars d last (rest.drop 1)
        let slash := after.length + 1 < rest.length
        readPieces fuel d (some (if slash then '/' else c)) after
      else readPieces fuel (d.push .anyOctets) (some c) rest
    else if c = '[' then
      match readBrackets rest with
      | .closed set after => readPieces fuel (d.push set) (some ']') after
      | .unclosed => readPieces fuel (d.pushChar c) (some c) rest
      | .disordered => none
    else if c = '{' then readPieces fuel d.openBrace (some c) rest
    else if c = '}' then d.closeBrace?.bind fun d => readPieces fuel d (some c) rest
    else if c = ',' ∧ !d.outer.isEmpty then readPieces fuel d.nextBranch (some c) rest
    else if c = '\\' then
      match rest with
      | [] => none
      | x :: rest => readPieces fuel (d.pushChar x) (some x) rest
    else readPieces fuel (d.pushChar c) (some c) rest

/-- The pieces of a pattern. -/
def read? (pattern : Text) : Option (List Piece) :=
  readPieces (pattern.length + 1) ⟨[], [], []⟩ none pattern

/-! ## Matching -/

/-- The octet of a slash. -/
def slash : UInt8 := 0x2F

/-- Whether some rest of the octets satisfies a condition, when only slash-free octets are passed. -/
def anyRestInPart (p : List UInt8 → Bool) : List UInt8 → Bool
  | [] => p []
  | o :: os => p (o :: os) || (o != slash && anyRestInPart p os)

/-- Whether some rest of the octets satisfies a condition. -/
def anyRestAt (p : List UInt8 → Bool) : List UInt8 → Bool
  | [] => p []
  | o :: os => p (o :: os) || anyRestAt p os

/-- Whether the octets after some slash satisfy a condition. -/
def anyRestPastSlash (p : List UInt8 → Bool) : List UInt8 → Bool
  | [] => false
  | o :: os => (o == slash && p os) || anyRestPastSlash p os

mutual

/-- Whether octets start with what a piece stands for and the rest satisfies `p`. -/
def covers : Piece → (p : List UInt8 → Bool) → List UInt8 → Bool
  | .octet x, p, os =>
    match os with
    | [] => false
    | o :: os => o == x && p os
  | .anyOctet, p, os =>
    match os with
    | [] => false
    | o :: os => o != slash && p os
  | .anyOctets, p, os => anyRestInPart p os
  | .leading, p, os => p os || anyRestPastSlash p os
  | .trailing, p, os =>
    match os with
    | [] => false
    | o :: os => o == slash && anyRestAt p os
  | .between, p, os =>
    match os with
    | [] => false
    | o :: os => o == slash && (p os || anyRestPastSlash p os)
  | .set negated ranges, p, os =>
    match os with
    | [] => false
    | o :: os => (ranges.any fun (a, b) => a ≤ o && o ≤ b) != negated && p os
  | .either branches, p, os => coversSome branches p os

/-- Whether octets start with what the pieces stand for and the rest satisfies `p`. -/
def coversAll : List Piece → (p : List UInt8 → Bool) → List UInt8 → Bool
  | [], p, os => p os
  | x :: xs, p, os => covers x (coversAll xs p) os

/-- Whether octets start with what one of the branches stands for and the rest satisfies `p`. -/
def coversSome : List (List Piece) → (p : List UInt8 → Bool) → List UInt8 → Bool
  | [], _, _ => false
  | xs :: rest, p, os => coversAll xs p os || coversSome rest p os

end

/-- Whether a path consists of what the pieces stand for.  A pattern of two stars alone stands for
every path. -/
def isCovered (pieces : List Piece) (path : Text) : Bool :=
  match pieces with
  | [.leading] => true
  | _ => coversAll pieces List.isEmpty (Text.encode path)

end GraphLint.Files.IgnoreRule
