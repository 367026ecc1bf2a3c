import GraphLint.Json
import GraphLint.Text.Quoted
import GraphLint.Uri.Read
/-! # Shapes of parameters

Which JSON values are parameters of a method.  A shape says what has to be there and leaves aside what
it does not know.  The first fault is reported: the fields that are there are looked at in the order of
their names, and then those that are missing in the order of the shape. -/
namespace GraphLint.Server

/-- A set of JSON values. -/
inductive Shape where
  | anything
  | text
  /-- A number of 32 bits. -/
  | word
  | flag
  | uri
  | choice (words : List String)
  /-- A value that may be null or missing. -/
  | optional (s : Shape)
  | list (s : Shape)
  | record (name : String) (fields : List (String × Shape))
  deriving Repr

namespace Shape

/-- Whether a field of this shape may be missing. -/
def mayLack : Shape → Bool
  | anything => false
  | optional _ => true
  | _ => false

/-- What a value is, in a message. -/
def describe : Json → String
  | .null => "null"
  | .bool b => "boolean `" ++ (if b then "true" else "false") ++ "`"
  | .whole n => "integer `" ++ toString n ++ "`"
  | .fraction t => "floating point `" ++ String.ofList t ++ "`"
  | .string s => "string " ++ String.ofList (Text.quoted s.toList)
  | .array _ => "sequence"
  | .object _ => "map"

/-- The message about a value of the wrong kind. -/
def wrongKind (j : Json) (expected : String) : String :=
  "invalid type: " ++ describe j ++ ", expected " ++ expected

/-- The message about a value that is out of its range. -/
def wrongValue (j : Json) (expected : String) : String :=
  "invalid value: " ++ describe j ++ ", expected " ++ expected

/-- The message about a word that is none of those expected. -/
def wrongChoice (words : List String) (word : String) : String :=
  "unknown variant `" ++ word ++ "`, expected one of " ++
    ", ".intercalate (words.map fun w => "`" ++ w ++ "`")

/-- The fields of an object in the order of their names. -/
def inOrder (fields : List (String × Json)) : List (String × Json) :=
  fields.mergeSort fun a b => a.1 ≤ b.1

/-- The first field that is missing. -/
def missing? (fields : List (String × Shape)) (given : List (String × Json)) : Option String :=
  (fields.find? fun f => !f.2.mayLack && (given.lookup f.1).isNone).map fun f =>
    "missing field `" ++ f.1 ++ "`"

/-- What is wrong with a text that is to be a URI. -/
def uriFault? (s : String) : Option String :=
  match Uri.read s.toList with
  | .ok _ => none
  | .error fault => some (wrongValue (.string s) fault.text)

mutual

/-- What is wrong with a value. -/
def fault? : Shape → Json → Option String
  | .anything, _ => none
  | .text, .string _ => none
  | .text, j => some (wrongKind j "a string")
  | .word, .whole n => if 0 ≤ n ∧ n.toNat < Nat.pow 2 32 then none else some (wrongValue (.whole n) "u32")
  | .word, j => some (wrongKind j "u32")
  | .flag, .bool _ => none
  | .flag, j => some (wrongKind j "a boolean")
  | .uri, .string s => uriFault? s
  | .uri, j => some (wrongKind j "a string representing an URL")
  | .choice words, .string w => if words.contains w then none else some (wrongChoice words w)
  | .choice _, j => some (wrongKind j "variant identifier")
  | .optional _, .null => none
  | .optional s, j => fault? s j
  | .list s, .array items => items.findSome? (fault? s ·)
  | .list _, j => some (wrongKind j "a sequence")
  | .record _ fields, .object given =>
    ((inOrder given).findSome? fun f => fieldFault? fields f.1 f.2).or (missing? fields given)
  | .record name _, j => some (wrongKind j ("struct " ++ name))

/-- What is wrong with the value of a field; a field without a shape may have any value. -/
def fieldFault? : List (String × Shape) → String → Json → Option String
  | [], _, _ => none
  | (name, s) :: rest, key, j => if name = key then fault? s j else fieldFault? rest key j

end

end Shape
end GraphLint.Server
