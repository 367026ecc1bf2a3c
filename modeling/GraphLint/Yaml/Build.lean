import GraphLint.Yaml.Document
/-! # From documents to values

A document is built into a value part by part.  An alias is built from the parts that its anchor
names, again for every alias; so the number of aliases followed is limited, and so is the depth of
nesting.  Where the parts run out, the failure that ended the document is the answer. -/
namespace GraphLint.Yaml

/-- How deep collections may be nested. -/
def depthLimit : Nat := 128

/-- How many aliases may be followed for each part of a document. -/
def aliasesPerPart : Nat := 100

/-- The way from the root of a document to a node, as messages name it. -/
structure Path where
  text : Text
  isRoot : Bool

namespace Path

/-- The root. -/
def root : Path := ⟨['.'], true⟩

/-- What stands before the name of an entry. -/
def stem (p : Path) : Text := if p.isRoot then [] else p.text ++ ['.']

/-- The item of a sequence. -/
def item (p : Path) (index : Nat) : Path :=
  ⟨p.text ++ '[' :: Nat.toDigits 10 index ++ [']'], false⟩

/-- The value of an entry with a scalar for its key, or with another key. -/
def entry (p : Path) (key : Option Text) : Path := ⟨p.stem ++ key.getD ['?'], false⟩

end Path

/-- The parts yet to be built and the number of aliases followed so far. -/
structure Rest where
  parts : List Part
  aliases : Nat

/-- The name of a tag of the document's own: a tag that starts with an exclamation mark. -/
def localTag? (tag : Option (List UInt8)) : Option (List UInt8) :=
  match tag with
  | some (0x21 :: name) =>
    if (String.fromUTF8? (ByteArray.mk name.toArray)).isSome then some name else none
  | _ => none

/-- A problem as a failure at a place. -/
def failAt {α : Type} (path : Path) (mark : Mark) (problem : ValueProblem) : Except Failure α :=
  .error (.value problem path.text mark)

/-- What a scalar stands for.  Under a tag of the document's own it is resolved without tag. -/
def buildScalar (path : Path) (mark : Mark) (tag : Option (List UInt8)) (tagged : Bool) (t : Text)
    (style : Style) : Except Failure Value :=
  let result := match tag with
    | some tag => if tagged then resolveUntagged t style else resolveTagged tag t style
    | none => resolveUntagged t style
  match result with
  | .ok v => .ok v
  | .error problem => failAt path mark problem

namespace Document
variable (d : Document)

/-- The next part, or the failure that ended the document. -/
def next (parts : List Part) : Except Failure (Part × List Part) :=
  match parts, d.failure with
  | part :: rest, _ => .ok (part, rest)
  | [], some failure => .error failure
  | [], none => .ok (⟨.nothing, .origin⟩, [])

mutual

/-- The value that starts with the next part, `depth` more collections deep at most.  `tagged` tells
that the tag of the node has been read already. -/
def build : (fuel : Nat) → (depth : Nat) → Path → (tagged : Bool) → Rest →
    Except Failure (Value × Rest)
  | 0, _, _, _, _ => .error .tooManyAliases
  | fuel + 1, depth, path, tagged, rest => do
    let (part, parts) ← d.next rest.parts
    let local? := if tagged then none else match part.kind with
      | .scalar tag _ _ => localTag? tag
      | .sequenceStart tag => localTag? tag
      | .mappingStart tag => localTag? tag
      | _ => none
    match local? with
    | some [] => failAt path part.mark .emptyTag
    | some name =>
      let (value, rest) ← build fuel depth path true rest
      return (.tagged name value, rest)
    | none =>
      match part.kind with
      | .nothing | .collectionEnd => return (.null, ⟨parts, rest.aliases⟩)
      | .reference number =>
        if d.parts.length * aliasesPerPart < rest.aliases + 1 then .error .tooManyAliases
        else
          let target := (d.partsFrom? number).getD []
          let (value, after) ← build fuel depth path false ⟨target, rest.aliases + 1⟩
          return (value, ⟨parts, after.aliases⟩)
      | .scalar tag t style =>
        return (← buildScalar path part.mark tag tagged t style, ⟨parts, rest.aliases⟩)
      | .sequenceStart _ =>
        match depth with
        | 0 => .error (.tooDeep part.mark)
        | depth + 1 =>
          let (items, rest) ← buildItems fuel depth path 0 ⟨parts, rest.aliases⟩
          return (.sequence items, rest)
      | .mappingStart _ =>
        match depth with
        | 0 => .error (.tooDeep part.mark)
        | depth + 1 =>
          let (entries, rest) ←
            buildEntries fuel depth path tagged part.mark [] ⟨parts, rest.aliases⟩
          return (.mapping entries, rest)

/-- The items of a sequence from the one with the given index on. -/
def buildItems : (fuel : Nat) → (depth : Nat) → Path → (index : Nat) → Rest →
    Except Failure (List Value × Rest)
  | 0, _, _, _, _ => .error .tooManyAliases
  | fuel + 1, depth, path, index, rest => do
    let (part, parts) ← d.next rest.parts
    match part.kind with
    | .collectionEnd | .nothing => return ([], ⟨parts, rest.aliases⟩)
    | _ =>
      let (value, rest) ← build fuel depth (path.item index) false rest
      let (values, rest) ← buildItems fuel depth path (index + 1) rest
      return (value :: values, rest)

/-- The entries of a mapping that starts at a mark, after the entries `before`.  A key has the path of
its mapping, and counts as tagged when the mapping is. -/
def buildEntries : (fuel : Nat) → (depth : Nat) → Path → (tagged : Bool) → Mark →
    (before : List (Value × Value)) → Rest → Except Failure (List (Value × Value) × Rest)
  | 0, _, _, _, _, _, _ => .error .tooManyAliases
  | fuel + 1, depth, path, tagged, mark, before, rest => do
    let (part, parts) ← d.next rest.parts
    match part.kind with
    | .collectionEnd | .nothing => return (before, ⟨parts, rest.aliases⟩)
    | kind =>
      let name := match kind with
        | .scalar _ t _ => some t
        | _ => none
      let (key, rest) ← build fuel depth path tagged rest
      if before.any (·.1.same key) then failAt path mark (.duplicateKey key)
      else
        let (value, rest) ← build fuel depth (path.entry name) false rest
        buildEntries fuel depth path tagged mark (before ++ [(key, value)]) rest

end

/-- The value of a document.  A failure that ended the document counts even when the value is
complete without what comes after it. -/
def value : Except Failure Value := do
  let fuel := (depthLimit + 2) * (d.parts.length + 3)
  let (value, _) ← d.build fuel depthLimit .root false ⟨d.parts, 0⟩
  match d.failure with
  | some failure => .error failure
  | none => return value

end Document
end GraphLint.Yaml
