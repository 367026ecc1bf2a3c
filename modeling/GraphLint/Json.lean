import GraphLint.Text.Utf8
/-! # JSON

Values, their two printed forms, and their reading.  Numbers that are not whole keep their text. -/
namespace GraphLint

/-- A JSON value.  The fields of an object stand in the order in which they are printed. -/
inductive Json where
  | null
  | bool (b : Bool)
  | whole (n : Int)
  | fraction (text : Text)
  | string (s : String)
  | array (items : List Json)
  | object (fields : List (String × Json))
  deriving Repr, Inhabited

namespace Json

/-- A number. -/
def ofNat (n : Nat) : Json := .whole n

/-- A text. -/
def ofText (t : Text) : Json := .string (String.ofList t)

/-- The value of a field, if there is one. -/
def field? (j : Json) (name : String) : Option Json :=
  match j with
  | .object fields => fields.lookup name
  | _ => none

/-- The string that a value is. -/
def string? : Json → Option String
  | .string s => some s
  | _ => none

/-! ## Printing -/

/-- A number in hexadecimal with four digits. -/
def fourDigits (n : Nat) : Text :=
  let digits := Nat.toDigits 16 n
  List.replicate (4 - digits.length) '0' ++ digits

/-- How a character is written in a string. -/
def escape (c : Char) : Text :=
  if c = '"' then ['\\', '"']
  else if c = '\\' then ['\\', '\\']
  else if c = '\x08' then ['\\', 'b']
  else if c = '\x0c' then ['\\', 'f']
  else if c = '\n' then ['\\', 'n']
  else if c = '\r' then ['\\', 'r']
  else if c = '\t' then ['\\', 't']
  else if c.toNat < 0x20 then '\\' :: 'u' :: fourDigits c.toNat
  else [c]

/-- A string between quotes. -/
def quote (s : String) : Text := '"' :: s.toList.flatMap escape ++ ['"']

/-- A whole number. -/
def printWhole (n : Int) : Text := (if n < 0 then ['-'] else []) ++ Nat.toDigits 10 n.natAbs

mutual

/-- A value on one line, without spaces. -/
def print : Json → Text
  | .null => "null".toList
  | .bool b => if b then "true".toList else "false".toList
  | .whole n => printWhole n
  | .fraction t => t
  | .string s => quote s
  | .array items => '[' :: printItems true items ++ [']']
  | .object fields => '{' :: printFields true fields ++ ['}']

/-- The items of an array, with a comma before all but the first. -/
def printItems : (first : Bool) → List Json → Text
  | _, [] => []
  | first, j :: js => (if first then [] else [',']) ++ print j ++ printItems false js

/-- The fields of an object, with a comma before all but the first. -/
def printFields : (first : Bool) → List (String × Json) → Text
  | _, [] => []
  | first, (name, j) :: fs =>
    (if first then [] else [',']) ++ quote name ++ ':' :: print j ++ printFields false fs

end

/-- The start of a line at a depth. -/
def lineStart (depth : Nat) : Text := '\n' :: List.replicate (2 * depth) ' '

mutual

/-- A value over several lines, two spaces for each depth. -/
def pretty (depth : Nat) : Json → Text
  | .null => "null".toList
  | .bool b => if b then "true".toList else "false".toList
  | .whole n => printWhole n
  | .fraction t => t
  | .string s => quote s
  | .array [] => ['[', ']']
  | .array (j :: js) => '[' :: prettyItems (depth + 1) true (j :: js) ++ lineStart depth ++ [']']
  | .object [] => ['{', '}']
  | .object (f :: fs) => '{' :: prettyFields (depth + 1) true (f :: fs) ++ lineStart depth ++ ['}']

/-- The items of an array, each on lines of its own. -/
def prettyItems (depth : Nat) : (first : Bool) → List Json → Text
  | _, [] => []
  | first, j :: js =>
    (if first then [] else [',']) ++ lineStart depth ++ pretty depth j ++ prettyItems depth false js

/-- The fields of an object, each on lines of its own. -/
def prettyFields (depth : Nat) : (first : Bool) → List (String × Json) → Text
  | _, [] => []
  | first, (name, j) :: fs =>
    (if first then [] else [',']) ++ lineStart depth ++ quote name ++ ':' :: ' ' :: pretty depth j ++
      prettyFields depth false fs

end

end Json
end GraphLint
