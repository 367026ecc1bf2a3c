import GraphLint.Toml.Scalar
/-! # TOML documents

A document consists of lines: comments, headers of tables, and keys with their values.  It either
denotes one table or is refused as a whole. -/
namespace GraphLint.Toml

/-- How deep values may be nested, and how many parts a key may have. -/
def depthLimit : Nat := 79

/-- Past a comment, if one starts here. -/
def skipComment : Text → Text
  | '#' :: rest => rest.dropWhile isPrintable
  | t => t

/-- Past spaces, comments and line breaks, at most `fuel` lines. -/
def skipLines : (fuel : Nat) → Text → Text
  | 0, t => t
  | fuel + 1, t =>
    let t := Text.dropSpaces t
    match afterBreak? (skipComment t) with
    | some rest => skipLines fuel rest
    | none => t

/-- The end of a line, a comment aside: a line break or the end of the text. -/
def readLineEnd : Reader Unit := fun t =>
  match skipComment (Text.dropSpaces t) with
  | [] => some ((), [])
  | rest => (afterBreak? rest).map fun rest => ((), rest)

/-! ## Keys -/

/-- Whether a character may stand in a key without quotes. -/
def isBare (c : Char) : Bool :=
  ('A' ≤ c && c ≤ 'Z') || ('a' ≤ c && c ≤ 'z') || ('0' ≤ c && c ≤ '9') || c == '-' || c == '_'

/-- One part of a key. -/
def readKeyPart : Reader Text := fun t =>
  match t with
  | '"' :: rest => readLineString '"' (rest.length + 1) rest
  | '\'' :: rest => readLineString '\'' (rest.length + 1) rest
  | _ =>
    let name := t.takeWhile isBare
    if name.isEmpty then none else some (name, t.drop name.length)

/-- The parts of a key with dots and spaces between them, at most `fuel` parts. -/
def readKeyParts : (fuel : Nat) → Reader (List Text)
  | 0, _ => none
  | fuel + 1, t => do
    let (part, rest) ← readKeyPart (Text.dropSpaces t)
    match Text.dropSpaces rest with
    | '.' :: rest =>
      let (parts, rest) ← readKeyParts fuel rest
      return (part :: parts, rest)
    | rest => return ([part], rest)

/-- A key: the parts before the last one, and the last one. -/
def readKey : Reader (List Text × Text) := fun t => do
  let (parts, rest) ← readKeyParts depthLimit t
  let last ← parts.getLast?
  return ((parts.dropLast, last), rest)

/-! ## Values -/

/-- The values of a list after its opening bracket, at most `fuel` of them. -/
def readItems (readValue : Reader Value) : (fuel : Nat) → Reader (List Value)
  | 0, _ => none
  | fuel + 1, t =>
    match skipLines (t.length + 1) t with
    | ']' :: rest => some ([], rest)
    | t => do
      let (value, rest) ← readValue t
      match skipLines (rest.length + 1) rest with
      | ',' :: rest =>
        let (values, rest) ← readItems readValue fuel rest
        return (value :: values, rest)
      | ']' :: rest => return ([value], rest)
      | _ => none

/-- The entries of a table in braces after those read so far, at most `fuel` of them. -/
def readEntries (readValue : Reader Value) : (fuel : Nat) → Entries → Reader Entries
  | 0, _, _ => none
  | fuel + 1, es, t => do
    let ((path, key), rest) ← readKey t
    let rest ← Text.after? ['='] rest
    let (value, rest) ← readValue (Text.dropSpaces rest)
    let es ← es.insert path key value .inline
    match Text.dropSpaces rest with
    | ',' :: rest => readEntries readValue fuel es rest
    | '}' :: rest => return (es, rest)
    | _ => none

/-- A table in braces after its opening brace. -/
def readInline (readValue : Reader Value) : Reader Value := fun t =>
  match Text.dropSpaces t with
  | '}' :: rest => some (.table .inline [], rest)
  | t => do
    let (es, rest) ← readEntries readValue (t.length + 1) [] t
    return (.table .inline es, rest)

/-- A value with lists and tables nested at most `depth` deep. -/
def readValue : (depth : Nat) → Reader Value
  | depth, t =>
    match t with
    | '"' :: _ => (readString '"' t).map fun (s, rest) => (.text s, rest)
    | '\'' :: _ => (readString '\'' t).map fun (s, rest) => (.text s, rest)
    | '[' :: rest =>
      match depth with
      | 0 => none
      | depth + 1 =>
        (readItems (readValue depth) (rest.length + 1) rest).map fun (vs, rest) => (.list vs, rest)
    | '{' :: rest =>
      match depth with
      | 0 => none
      | depth + 1 => readInline (readValue depth) rest
    | 't' :: _ => (Text.after? "true".toList t).map fun rest => (.boolean true, rest)
    | 'f' :: _ => (Text.after? "false".toList t).map fun rest => (.boolean false, rest)
    | _ => if startsMoment t then readMoment t else readNumber t

/-! ## Lines -/

/-- A document that is being read: its table, and the table that keys belong to. -/
structure Draft where
  entries : Entries
  path : List Text

/-- One line that is neither blank nor a comment. -/
def readLine (d : Draft) : Reader Draft := fun t =>
  match t with
  | '[' :: '[' :: rest => do
    let ((path, key), rest) ← readKey rest
    let rest ← Text.after? [']', ']'] rest
    let (_, rest) ← readLineEnd rest
    let entries ← d.entries.change false (fun _ es => es.openElement key) path .header
    return (⟨entries, path ++ [key]⟩, rest)
  | '[' :: rest => do
    let ((path, key), rest) ← readKey rest
    let rest ← Text.after? [']'] rest
    let (_, rest) ← readLineEnd rest
    let entries ← d.entries.change false (fun _ es => es.openTable key) path .header
    return (⟨entries, path ++ [key]⟩, rest)
  | _ => do
    let ((path, key), rest) ← readKey t
    let rest ← Text.after? ['='] rest
    let (value, rest) ← readValue depthLimit (Text.dropSpaces rest)
    let (_, rest) ← readLineEnd rest
    let entries ← d.entries.change false (fun form es => es.insert path key value form) d.path .header
    return (⟨entries, d.path⟩, rest)

/-- The lines of a document, at most `fuel` of them. -/
def readLines : (fuel : Nat) → Draft → Text → Option Entries
  | 0, _, _ => none
  | fuel + 1, d, t =>
    match skipLines (t.length + 1) t with
    | [] => some d.entries
    | '#' :: rest => if (skipComment ('#' :: rest)).isEmpty then some d.entries else none
    | t => (readLine d t).bind fun (d, rest) => readLines fuel d rest

/-- The table that a text denotes.  A byte order mark at the start is left aside. -/
def parse? (t : Text) : Option Entries :=
  let t := (Text.after? ['\ufeff'] t).getD t
  readLines (t.length + 1) ⟨[], []⟩ t

end GraphLint.Toml
