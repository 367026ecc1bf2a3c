import GraphLint.Text.Utf8
import GraphLint.Yaml.Token
/-! # Tags, anchors and directives

A tag is written in full between `!<` and `>`, or as a handle and a suffix.  Its text is a URI, in
which `%` introduces an escaped octet; the escapes of one character must together form a UTF-8
sequence by their leading bits.  A directive line starts with `%`. -/
namespace GraphLint.Yaml

/-- Where the text of a tag stands: in a node's properties or in a `%TAG` directive. -/
inductive TagPlace where
  | property
  | directive
  deriving DecidableEq, Repr

/-- The activity of reading a URI. -/
def TagPlace.uriActivity : TagPlace → Activity
  | .property => .tagUri
  | .directive => .tagDirectivePrefix

/-- Whether a character may stand in the URI of a tag. -/
def isUriChar (c : Char) : Bool :=
  isWordChar c || c == ';' || c == '/' || c == '?' || c == ':' || c == '@' || c == '&' ||
    c == '=' || c == '+' || c == '$' || c == '.' || c == '%' || c == '!' || c == '~' ||
    c == '*' || c == '\'' || c == '(' || c == ')'

/-- Whether a flow indicator may stand in the URI of a tag that is written in full. -/
def isVerbatimUriChar (c : Char) : Bool := isUriChar c || c == ',' || c == '[' || c == ']'

/-- The number of octets of a UTF-8 sequence, by the bits of its first one. -/
def sequenceLength? (octet : Nat) : Option Nat :=
  if octet < 0x80 then some 1
  else if octet / 0x20 = 0x6 then some 2
  else if octet / 0x10 = 0xE then some 3
  else if octet / 0x08 = 0x1E then some 4
  else none

/-- The octet escaped at a cursor. -/
def escapedOctet? (c : Cursor) : Option Nat :=
  match c.rest with
  | '%' :: high :: low :: _ => do return (← Text.hexValue? high) * 16 + (← Text.hexValue? low)
  | _ => none

/-- The remaining `count` escaped octets of one character. -/
def trailingOctets (place : TagPlace) (since : Mark) :
    (count : Nat) → Cursor → Except Fault (List UInt8 × Cursor)
  | 0, c => .ok ([], c)
  | count + 1, c =>
    match escapedOctet? c with
    | none => .error (.within place.uriActivity since .tagEscape c.mark)
    | some octet =>
      if octet / 0x40 = 0x2 then do
        let (rest, c) ← trailingOctets place since count (c.forward 3)
        return (UInt8.ofNat octet :: rest, c)
      else .error (.within place.uriActivity since .tagTrailingOctet c.mark)

/-- The escaped octets of one character. -/
def escapedOctets (place : TagPlace) (since : Mark) (c : Cursor) :
    Except Fault (List UInt8 × Cursor) :=
  match escapedOctet? c with
  | none => .error (.within place.uriActivity since .tagEscape c.mark)
  | some octet =>
    match sequenceLength? octet with
    | none => .error (.within place.uriActivity since .tagLeadingOctet c.mark)
    | some length => do
      let (rest, c) ← trailingOctets place since (length - 1) (c.forward 3)
      return (UInt8.ofNat octet :: rest, c)

/-- The octets of the longest URI at a cursor, read in at most `fuel` steps. -/
def uriOctets (place : TagPlace) (since : Mark) (isUri : Char → Bool) :
    (fuel : Nat) → Cursor → Except Fault (List UInt8 × Cursor)
  | 0, c => .ok ([], c)
  | fuel + 1, c =>
    match c.peek with
    | none => .ok ([], c)
    | some x =>
      if x = '%' then do
        let (octets, c) ← escapedOctets place since c
        let (rest, c) ← uriOctets place since isUri fuel c
        return (octets ++ rest, c)
      else if isUri x then do
        let (rest, c) ← uriOctets place since isUri fuel (c.forward 1)
        return (Text.encodeChar x ++ rest, c)
      else .ok ([], c)

/-- The URI at a cursor.  `lead` is the text already read as a handle that belongs to the URI; its
exclamation mark is not part of the suffix.  An escaped zero octet ends the URI. -/
def scanUri (place : TagPlace) (since : Mark) (isUri : Char → Bool) (lead : Text) (c : Cursor) :
    Except Fault (List UInt8 × Cursor) := do
  let (octets, after) ← uriOctets place since isUri (c.rest.length + 1) c
  if lead.isEmpty && octets.isEmpty then
    .error (.within place.uriActivity since .tagUriMissing after.mark)
  else return (((lead.drop 1).flatMap Text.encodeChar ++ octets).takeWhile (· != 0), after)

/-- A handle: `!`, `!word!`, or, in a property, the start `!word` of a URI. -/
def scanHandle (place : TagPlace) (since : Mark) (c : Cursor) : Except Fault (Text × Cursor) :=
  if !c.sees '!' then
    let activity := match place with | .property => .tag | .directive => .tagDirectiveHandle
    .error (.within activity since .tagMark c.mark)
  else
    let (word, after) := (c.forward 1).takeWhile isWordChar
    if after.sees '!' then .ok ('!' :: word ++ ['!'], after.forward 1)
    else if place = .directive && !word.isEmpty then
      .error (.within .tagDirectiveHandleEnd since .tagMark after.mark)
    else .ok ('!' :: word, after)

/-- The handle and the suffix of a tag written with a handle. -/
def scanShorthand (since : Mark) (c : Cursor) :
    Except Fault (Text × List UInt8 × Cursor) := do
  let (handle, after) ← scanHandle .property since c
  if 2 ≤ handle.length && handle.getLast? == some '!' then
    let (suffix, after) ← scanUri .property since isUriChar [] after
    return (handle, suffix, after)
  else
    let (suffix, after) ← scanUri .property since isUriChar handle after
    if suffix.isEmpty then return ([], Text.encodeChar '!', after)
    else return (['!'], suffix, after)

/-- A tag, in the flow context when `inFlow`. -/
def scanTag (inFlow : Bool) (c : Cursor) : Except Fault (Token × Cursor) := do
  let since := c.mark
  let (handle, suffix, after) ←
    if c.peekAt 1 == some '<' then do
      let (suffix, after) ← scanUri .property since isVerbatimUriChar [] (c.forward 2)
      if after.sees '>' then pure ([], suffix, after.forward 1)
      else .error (.within .tag since .tagClose after.mark)
    else scanShorthand since c
  if after.gapAt 0 || (inFlow && after.sees ',') then
    return (⟨.tag handle suffix, since, after.mark⟩, after)
  else .error (.within .tag since .tagTail after.mark)

/-- Whether a character may directly follow the name of an anchor. -/
def mayFollowName (c : Char) : Bool :=
  c == '?' || c == ':' || c == ',' || c == ']' || c == '}' || c == '%' || c == '@' || c == '`'

/-- An anchor, or an alias to one. -/
def scanAnchor (activity : Activity) (kind : Text → TokenKind) (c : Cursor) :
    Except Fault (Token × Cursor) :=
  let (name, after) := (c.forward 1).takeWhile isWordChar
  if name.isEmpty || !(after.gapAt 0 || after.peek.any mayFollowName) then
    .error (.within activity c.mark .anchorName after.mark)
  else .ok (⟨kind name, c.mark, after.mark⟩, after)

/-- One number of a version, of at most nine digits. -/
def scanVersionNumber (since : Mark) (c : Cursor) : Except Fault (Nat × Cursor) :=
  let digits := c.rest.takeWhile isDigit
  if 9 < digits.length then
    .error (.within .versionDirective since .versionTooLong (c.mark.forward 9))
  else if digits.isEmpty then
    .error (.within .versionDirective since .versionMissing c.mark)
  else
    .ok (digits.foldl (fun n d => n * 10 + (d.toNat - '0'.toNat)) 0, c.forward digits.length)

/-- The value of a `%YAML` directive. -/
def scanVersion (since : Mark) (c : Cursor) : Except Fault (TokenKind × Cursor) := do
  let (major, c) ← scanVersionNumber since c.skipSpaces
  if c.sees '.' then
    let (minor, c) ← scanVersionNumber since (c.forward 1)
    return (.versionDirective major minor, c)
  else .error (.within .versionDirective since .versionSeparator c.mark)

/-- The value of a `%TAG` directive. -/
def scanTagDirective (since : Mark) (c : Cursor) : Except Fault (TokenKind × Cursor) := do
  let (handle, c) ← scanHandle .directive since c.skipSpaces
  if !c.spaceAt 0 then .error (.within .tagDirective since .tagDirectiveSpace c.mark)
  else
    let (expansion, c) ← scanUri .directive since isVerbatimUriChar [] c.skipSpaces
    if c.gapAt 0 then return (.tagDirective handle expansion, c)
    else .error (.within .tagDirective since .tagDirectiveTail c.mark)

/-- A directive and the rest of its line. -/
def scanDirective (c : Cursor) : Except Fault (Token × Cursor) := do
  let since := c.mark
  let (name, after) := (c.forward 1).takeWhile isWordChar
  if name.isEmpty then .error (.within .directive since .directiveNameMissing after.mark)
  else if !after.gapAt 0 then .error (.within .directive since .directiveNameBroken after.mark)
  else
    let (kind, after) ←
      if name = "YAML".toList then scanVersion since after
      else if name = "TAG".toList then scanTagDirective since after
      else .error (.within .directive since .directiveUnknown after.mark)
    let tail := after.skipSpaces.skipComment
    if tail.breakOrEndAt 0 then return (⟨kind, since, after.mark⟩, tail.skipBreak)
    else .error (.within .directive since .directiveTail tail.mark)

end GraphLint.Yaml
