import GraphLint.Yaml.Lexer
/-! # Events

The structure of a stream as a sequence of events: where documents and collections start and end,
and the scalars and aliases in them.  The reader is a pushdown machine.  What it expects next and
what it expects after that form a stack; each step looks at the next tokens, answers one event and
changes the stack.  A step that needs a token which cannot be read fails with the fault of the
tokens, so the events before a fault are well defined. -/
namespace GraphLint.Yaml

/-- The anchor and the tag of a node. -/
structure Properties where
  anchor : Option Text
  tag : Option (List UInt8)
  deriving DecidableEq, Repr

/-- What an event is. -/
inductive EventKind where
  | streamEnd
  | documentStart
  | documentEnd
  | reference (name : Text)
  | scalar (properties : Properties) (text : Text) (style : Style)
  | sequenceStart (properties : Properties)
  | sequenceEnd
  | mappingStart (properties : Properties)
  | mappingEnd
  deriving DecidableEq, Repr

/-- An event and the mark where it starts. -/
structure Event where
  kind : EventKind
  mark : Mark
  deriving DecidableEq, Repr

/-- What a reader expects.  `since` is where the collection starts that the expectation is about. -/
inductive Expected where
  /-- A document; only the first one of a stream may start without an indicator. -/
  | document (first : Bool)
  /-- What follows a document's start indicator. -/
  | content
  /-- The root of a document without a start indicator. -/
  | root
  | documentEnd
  | blockItem (since : Mark)
  /-- An item of a sequence that is not indented more than the key it belongs to. -/
  | flatItem
  | blockKey (since : Mark)
  | blockValue (since : Mark)
  | flowItem (first : Bool) (since : Mark)
  | flowKey (first : Bool) (since : Mark)
  | flowValue (since : Mark)
  /-- The value of a key that has no colon. -/
  | flowNoValue (since : Mark)
  /-- The key of a pair that stands as an item of a flow sequence. -/
  | pairKey (since : Mark)
  | pairValue (since : Mark)
  | pairEnd (since : Mark)
  deriving DecidableEq, Repr

/-- What a tag handle stands for. -/
structure Handle where
  name : Text
  expansion : List UInt8
  deriving DecidableEq, Repr

/-- The handles that every document has unless it defines them anew. -/
def Handle.defaults : List Handle :=
  [⟨['!'], Text.encodeChar '!'⟩, ⟨['!', '!'], Text.encode "tag:yaml.org,2002:".toList⟩]

/-- A reader at work. -/
structure Reader where
  tokens : Tokens
  expected : Expected
  /-- What is expected afterwards, the next one first. -/
  stack : List Expected
  handles : List Handle
  deriving Repr

namespace Reader

/-- A reader before the tokens of a stream. -/
def start (tokens : Tokens) : Reader := ⟨tokens, .document true, [], []⟩

/-- The next token; after the last one comes the end of the stream. -/
def peek (r : Reader) : Except Fault Token :=
  match r.tokens.list with
  | token :: _ => .ok token
  | [] => r.tokens.ending.map fun mark => ⟨.streamEnd, mark, mark⟩

/-- Past the next token. -/
def skip (r : Reader) : Reader := { r with tokens := { r.tokens with list := r.tokens.list.drop 1 } }

/-- With a new expectation. -/
def expect (r : Reader) (expected : Expected) : Reader := { r with expected }

/-- With a new expectation once the next node has been read. -/
def after (r : Reader) (expected : Expected) : Reader := { r with stack := expected :: r.stack }

/-- Back to the last expectation that was put off. -/
def resume (r : Reader) : Reader :=
  match r.stack with
  | expected :: stack => { r with expected, stack }
  | [] => r

/-- A result of a step. -/
abbrev Step := Except Fault (Event × Reader)

/-- The event of a node that is left out. -/
def emptyScalar (r : Reader) (mark : Mark) : Step :=
  .ok (⟨.scalar ⟨none, none⟩ [] .plain, mark⟩, r)

/-- The event that the next token gives, which is used up. -/
def take (r : Reader) (kind : EventKind) (mark : Mark) : Step := .ok (⟨kind, mark⟩, r.skip)

/-! ## Directives and documents -/

/-- Whether a token ends a document without being part of its root. -/
def endsDocument : TokenKind → Bool
  | .versionDirective .. | .tagDirective .. | .documentStart | .documentEnd | .streamEnd => true
  | _ => false

/-- Reads at most `fuel` directives; `versioned` tells whether one of them was a version. -/
def readDirectives : (fuel : Nat) → (versioned : Bool) → Reader → Except Fault Reader
  | 0, _, r => .ok r
  | fuel + 1, versioned, r => do
    let token ← r.peek
    match token.kind with
    | .versionDirective major minor =>
      if versioned then .error (.at .duplicateVersion token.start)
      else if major ≠ 1 ∨ (minor ≠ 1 ∧ minor ≠ 2) then
        .error (.at .incompatibleVersion token.start)
      else readDirectives fuel true r.skip
    | .tagDirective name expansion =>
      if r.handles.any (·.name == name) then .error (.at .duplicateTagDirective token.start)
      else
        readDirectives fuel versioned { r.skip with handles := r.handles ++ [⟨name, expansion⟩] }
    | _ => .ok r

/-- Adds the handles that no directive has defined. -/
def withDefaults (r : Reader) : Reader :=
  let missing := Handle.defaults.filter fun h => !r.handles.any (·.name == h.name)
  { r with handles := r.handles ++ missing }

/-- Past document end indicators. -/
def skipDocumentEnds (r : Reader) : Reader :=
  let list := r.tokens.list.dropWhile (·.kind == .documentEnd)
  { r with tokens := { r.tokens with list } }

/-- The start of a document, or the end of the stream. -/
def readDocument (r : Reader) (first : Bool) : Step := do
  let r := if first then r else r.skipDocumentEnds
  let token ← r.peek
  let implicit := match token.kind with
    | .versionDirective .. | .tagDirective .. | .documentStart | .streamEnd => false
    | _ => first
  if implicit then
    return (⟨.documentStart, token.start⟩, (r.withDefaults.after .documentEnd).expect .root)
  else if token.kind = .streamEnd then r.take .streamEnd token.start
  else
    let r := (← readDirectives (r.tokens.list.length + 1) false r).withDefaults
    let next ← r.peek
    if next.kind = .documentStart then
      ((r.after .documentEnd).expect .content).take .documentStart token.start
    else .error (.at .documentStartMissing next.start)

/-- The end of a document, whose handles are forgotten. -/
def readDocumentEnd (r : Reader) : Step := do
  let token ← r.peek
  let r := { r with handles := [], expected := .document false }
  if token.kind = .documentEnd then r.take .documentEnd token.start
  else return (⟨.documentEnd, token.start⟩, r)

/-! ## Nodes -/

/-- A node's properties as they are written: the tag by its handle, with the place of the tag. -/
structure WrittenProperties where
  anchor : Option Text
  tag : Option (Text × List UInt8 × Mark)

/-- Reads an anchor and a tag, in either order. -/
def readProperties (r : Reader) : Except Fault (WrittenProperties × Reader) := do
  let token ← r.peek
  match token.kind with
  | .anchor name =>
    let r := r.skip
    let next ← r.peek
    match next.kind with
    | .tag handle suffix => return (⟨some name, some (handle, suffix, next.start)⟩, r.skip)
    | _ => return (⟨some name, none⟩, r)
  | .tag handle suffix =>
    let r := r.skip
    let next ← r.peek
    match next.kind with
    | .anchor name => return (⟨some name, some (handle, suffix, token.start)⟩, r.skip)
    | _ => return (⟨none, some (handle, suffix, token.start)⟩, r)
  | _ => return (⟨none, none⟩, r)

/-- The tag that a written tag stands for. -/
def resolveTag (r : Reader) (since : Mark) :
    Option (Text × List UInt8 × Mark) → Except Fault (Option (List UInt8))
  | none => .ok none
  | some (handle, suffix, mark) =>
    if handle.isEmpty then .ok (some suffix)
    else
      match r.handles.find? (·.name == handle) with
      | some h => .ok (some (h.expansion ++ suffix))
      | none => .error (.within .node since .undefinedTagHandle mark)

/-- A node without content: an empty scalar if it has properties, else an error. -/
def readBare (r : Reader) (block : Bool) (properties : Properties) (since mark : Mark) : Step :=
  if properties.anchor.isSome || properties.tag.isSome then
    .ok (⟨.scalar properties [] .plain, since⟩, r.resume)
  else
    .error (.within (if block then .blockNode else .flowNode) since .nodeContentMissing mark)

/-- A node.  Block collections stand outside flow collections only; `flat` allows a sequence that
is not indented. -/
def readNode (r : Reader) (block flat : Bool) : Step := do
  let first ← r.peek
  match first.kind with
  | .reference name => r.resume.take (.reference name) first.start
  | _ =>
    let (written, r) ← r.readProperties
    let token ← r.peek
    let tag ← r.resolveTag first.start written.tag
    let properties : Properties := ⟨written.anchor, tag⟩
    let flowStart (kind : EventKind) (expected : Expected) : Step :=
      (r.expect expected).take kind first.start
    match token.kind with
    | .blockEntry =>
      if flat then return (⟨.sequenceStart properties, first.start⟩, r.expect .flatItem)
      else r.readBare block properties first.start token.start
    | .scalar text style =>
      let tag := if tag = some (Text.encodeChar '!') then none else tag
      r.resume.take (.scalar ⟨written.anchor, tag⟩ text style) first.start
    | .flowSequenceStart => flowStart (.sequenceStart properties) (.flowItem true token.start)
    | .flowMappingStart => flowStart (.mappingStart properties) (.flowKey true token.start)
    | .blockSequenceStart =>
      if block then flowStart (.sequenceStart properties) (.blockItem token.start)
      else r.readBare block properties first.start token.start
    | .blockMappingStart =>
      if block then flowStart (.mappingStart properties) (.blockKey token.start)
      else r.readBare block properties first.start token.start
    | _ => r.readBare block properties first.start token.start

/-! ## Collections -/

/-- An item of a block sequence, or its end. -/
def readBlockItem (r : Reader) (since : Mark) : Step := do
  let token ← r.peek
  match token.kind with
  | .blockEntry =>
    let r := r.skip
    match (← r.peek).kind with
    | .blockEntry | .blockEnd => (r.expect (.blockItem since)).emptyScalar token.stop
    | _ => (r.after (.blockItem since)).readNode true false
  | .blockEnd => r.resume.take .sequenceEnd token.start
  | _ => .error (.within .blockSequence since .blockEntryMissing token.start)

/-- An item of a sequence that is not indented, or its end. -/
def readFlatItem (r : Reader) : Step := do
  let token ← r.peek
  match token.kind with
  | .blockEntry =>
    let r := r.skip
    match (← r.peek).kind with
    | .blockEntry | .key | .value | .blockEnd => (r.expect .flatItem).emptyScalar token.stop
    | _ => (r.after .flatItem).readNode true false
  | _ => return (⟨.sequenceEnd, token.start⟩, r.resume)

/-- A node of a block mapping that starts after the indicator `token`, before `expected`. -/
def readBlockNode (r : Reader) (token : Token) (expected : Expected) : Step := do
  let r := r.skip
  match (← r.peek).kind with
  | .key | .value | .blockEnd => (r.expect expected).emptyScalar token.stop
  | _ => (r.after expected).readNode true true

/-- A key of a block mapping, or its end. -/
def readBlockKey (r : Reader) (since : Mark) : Step := do
  let token ← r.peek
  match token.kind with
  | .key => r.readBlockNode token (.blockValue since)
  | .blockEnd => r.resume.take .mappingEnd token.start
  | _ => .error (.within .blockMapping since .blockKeyMissing token.start)

/-- A value of a block mapping. -/
def readBlockValue (r : Reader) (since : Mark) : Step := do
  let token ← r.peek
  match token.kind with
  | .value => r.readBlockNode token (.blockKey since)
  | _ => (r.expect (.blockKey since)).emptyScalar token.start

/-- Past the comma before every item of a flow collection but the first. -/
def skipComma (r : Reader) (first : Bool) (activity : Activity) (since : Mark) (problem : Problem) :
    Except Fault Reader := do
  if first then return r
  else
    let token ← r.peek
    if token.kind = .flowEntry then return r.skip
    else .error (.within activity since problem token.start)

/-- An item of a flow sequence, or its end. -/
def readFlowItem (r : Reader) (first : Bool) (since : Mark) : Step := do
  let token ← r.peek
  if token.kind = .flowSequenceEnd then r.resume.take .sequenceEnd token.start
  else
    let r ← r.skipComma first .flowSequence since .flowSequenceSeparator
    let token ← r.peek
    match token.kind with
    | .key => (r.expect (.pairKey since)).take (.mappingStart ⟨none, none⟩) token.start
    | .flowSequenceEnd => r.resume.take .sequenceEnd token.start
    | _ => (r.after (.flowItem false since)).readNode false false

/-- The key of a pair in a flow sequence.  A key that is left out takes the token after it along. -/
def readPairKey (r : Reader) (since : Mark) : Step := do
  let token ← r.peek
  match token.kind with
  | .value | .flowEntry | .flowSequenceEnd =>
    (r.skip.expect (.pairValue since)).emptyScalar token.stop
  | _ => (r.after (.pairValue since)).readNode false false

/-- The value of a pair in a flow sequence. -/
def readPairValue (r : Reader) (since : Mark) : Step := do
  let token ← r.peek
  match token.kind with
  | .value =>
    let r := r.skip
    let next ← r.peek
    match next.kind with
    | .flowEntry | .flowSequenceEnd => (r.expect (.pairEnd since)).emptyScalar next.start
    | _ => (r.after (.pairEnd since)).readNode false false
  | _ => (r.expect (.pairEnd since)).emptyScalar token.start

/-- The end of a pair in a flow sequence. -/
def readPairEnd (r : Reader) (since : Mark) : Step := do
  let token ← r.peek
  return (⟨.mappingEnd, token.start⟩, r.expect (.flowItem false since))

/-- A key of a flow mapping, or its end. -/
def readFlowKey (r : Reader) (first : Bool) (since : Mark) : Step := do
  let token ← r.peek
  if token.kind = .flowMappingEnd then r.resume.take .mappingEnd token.start
  else
    let r ← r.skipComma first .flowMapping since .flowMappingSeparator
    let token ← r.peek
    match token.kind with
    | .key =>
      let r := r.skip
      let next ← r.peek
      match next.kind with
      | .value | .flowEntry | .flowMappingEnd =>
        (r.expect (.flowValue since)).emptyScalar next.start
      | _ => (r.after (.flowValue since)).readNode false false
    | .flowMappingEnd => r.resume.take .mappingEnd token.start
    | _ => (r.after (.flowNoValue since)).readNode false false

/-- The value of a flow mapping. -/
def readFlowValue (r : Reader) (since : Mark) : Step := do
  let token ← r.peek
  let next := r.expect (.flowKey false since)
  match token.kind with
  | .value =>
    let token ← r.skip.peek
    match token.kind with
    | .flowEntry | .flowMappingEnd => next.skip.emptyScalar token.start
    | _ => (r.skip.after (.flowKey false since)).readNode false false
  | _ => next.emptyScalar token.start

/-- The value of a key of a flow mapping that has no colon. -/
def readFlowNoValue (r : Reader) (since : Mark) : Step := do
  let token ← r.peek
  (r.expect (.flowKey false since)).emptyScalar token.start

/-- The next event. -/
def step (r : Reader) : Step :=
  match r.expected with
  | .document first => r.readDocument first
  | .content => do
    let token ← r.peek
    if endsDocument token.kind then r.resume.emptyScalar token.start else r.readNode true false
  | .root => r.readNode true false
  | .documentEnd => r.readDocumentEnd
  | .blockItem since => r.readBlockItem since
  | .flatItem => r.readFlatItem
  | .blockKey since => r.readBlockKey since
  | .blockValue since => r.readBlockValue since
  | .flowItem first since => r.readFlowItem first since
  | .flowKey first since => r.readFlowKey first since
  | .flowValue since => r.readFlowValue since
  | .flowNoValue since => r.readFlowNoValue since
  | .pairKey since => r.readPairKey since
  | .pairValue since => r.readPairValue since
  | .pairEnd since => r.readPairEnd since

end Reader
end GraphLint.Yaml
