import GraphLint.Yaml.Resolve
/-! # Documents

The events of a stream, document by document.  An alias repeats the node that has its anchor.  An
anchor is known by the number of names that had been given in the document before it; naming a second
node alike takes the name away from the first one, and where two nodes share a number the later one
is meant. -/
namespace GraphLint.Yaml

/-- What keeps a stream from standing for values. -/
inductive Failure where
  | fault (fault : Fault)
  | unknownAnchor (mark : Mark)
  | tooDeep (mark : Mark)
  | tooManyAliases
  /-- A problem with a value at a path, the text of which is `.` at the root. -/
  | value (problem : ValueProblem) (path : Text) (mark : Mark)
  deriving Repr

namespace Failure

/-- The place of a failure, if it has one. -/
def mark? : Failure → Option Mark
  | .fault f => some f.mark
  | .unknownAnchor m => some m
  | .tooDeep m => some m
  | .tooManyAliases => none
  | .value _ _ m => some m

/-- A place in a message, unless it is the very start of the stream. -/
def place (m : Mark) : String := if m.atTop then "" else m.describe

/-- The wording of a failure. -/
def message : Failure → String
  | .fault f => f.message
  | .unknownAnchor m => "unknown anchor" ++ place m
  | .tooDeep m => "recursion limit exceeded" ++ place m
  | .tooManyAliases => "repetition limit exceeded"
  | .value problem path m =>
    (if path = ['.'] then "" else String.ofList path ++ ": ") ++ problem.message ++ place m

end Failure

/-- What an event of a document is. -/
inductive PartKind where
  /-- The content of a stream without documents. -/
  | nothing
  | reference (number : Nat)
  | scalar (tag : Option (List UInt8)) (text : Text) (style : Style)
  | sequenceStart (tag : Option (List UInt8))
  | mappingStart (tag : Option (List UInt8))
  | collectionEnd
  deriving DecidableEq, Repr

/-- An event of a document and its mark. -/
structure Part where
  kind : PartKind
  mark : Mark
  deriving DecidableEq, Repr

/-- A document as far as it can be read. -/
structure Document where
  parts : List Part
  /-- The number of each anchor and the index of the part that it names, the last one first. -/
  anchors : List (Nat × Nat)
  failure : Option Failure
  deriving Repr

namespace Document

/-- The parts from the one that an anchor's number means. -/
def partsFrom? (d : Document) (number : Nat) : Option (List Part) :=
  (d.anchors.lookup number).map d.parts.drop

end Document

/-! ## Reading documents -/

/-- A document that is being read. -/
structure Draft where
  /-- The parts, the last one first. -/
  parts : List Part
  count : Nat
  /-- The names of anchors with their numbers. -/
  names : List (Text × Nat)
  anchors : List (Nat × Nat)

namespace Draft

/-- A document of which nothing has been read. -/
def empty : Draft := ⟨[], 0, [], []⟩

/-- With one more part, which may have an anchor. -/
def add (d : Draft) (anchor : Option Text) (kind : PartKind) (mark : Mark) : Draft :=
  let d := match anchor with
    | none => d
    | some name =>
      let number := d.names.length
      { d with
        names := (name, number) :: d.names.filter (·.1 != name)
        anchors := (number, d.count) :: d.anchors }
  { d with parts := ⟨kind, mark⟩ :: d.parts, count := d.count + 1 }

/-- The document, ended by a failure or by its end. -/
def close (d : Draft) (failure : Option Failure) : Document :=
  ⟨d.parts.reverse, d.anchors, failure⟩

end Draft

/-- How an event goes on with a document. -/
inductive Progress where
  | more (draft : Draft)
  | done (document : Document)
  | failed (document : Document)
  | streamEnd (mark : Mark)

/-- A document after one more event. -/
def Draft.extend (d : Draft) (event : Event) : Progress :=
  match event.kind with
  | .streamEnd => .streamEnd event.mark
  | .documentStart => .more d
  | .documentEnd => .done (d.close none)
  | .reference name =>
    match d.names.lookup name with
    | some number => .more (d.add none (.reference number) event.mark)
    | none => .failed (d.close (some (.unknownAnchor event.mark)))
  | .scalar properties text style =>
    .more (d.add properties.anchor (.scalar properties.tag text style) event.mark)
  | .sequenceStart properties =>
    .more (d.add properties.anchor (.sequenceStart properties.tag) event.mark)
  | .mappingStart properties =>
    .more (d.add properties.anchor (.mappingStart properties.tag) event.mark)
  | .sequenceEnd | .mappingEnd => .more (d.add none .collectionEnd event.mark)

/-- The documents that a reader reads on from a draft, in at most `fuel` steps.  A stream without
documents counts as one document that holds nothing; reading ends with the first failure. -/
def readDocuments : (fuel : Nat) → (first : Bool) → Draft → Reader → List Document
  | 0, _, _, _ => []
  | fuel + 1, first, draft, reader =>
    match reader.step with
    | .error fault => [draft.close (some (.fault fault))]
    | .ok (event, reader) =>
      match draft.extend event with
      | .more draft => readDocuments fuel first draft reader
      | .done document => document :: readDocuments fuel false .empty reader
      | .failed document => [document]
      | .streamEnd mark => if first then [(draft.add none .nothing mark).close none] else []

/-- The documents of a text.  No token leads to more than four events. -/
def documents (text : Text) : List Document :=
  let tokens := Tokens.ofText text
  readDocuments (4 * tokens.list.length + 8) true .empty (.start tokens)

end GraphLint.Yaml
