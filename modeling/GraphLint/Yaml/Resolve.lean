import GraphLint.Yaml.Value
import GraphLint.Yaml.Event
/-! # What a scalar stands for

A plain scalar without a tag stands for null, a truth value or a number if it is written like one,
and else for its text; every other scalar stands for its text.  A tag of the YAML schema asks for one
kind of value. -/
namespace GraphLint.Yaml

/-- The kinds of values that a tag can ask for, text apart. -/
inductive ScalarKind where
  | boolean
  | integer
  | float
  | null
  deriving DecidableEq, Repr

/-- The wording of a kind. -/
def ScalarKind.text : ScalarKind → String
  | .boolean => "a boolean"
  | .integer => "an integer"
  | .float => "a float"
  | .null => "null"

/-- What is wrong with a value in a stream of good form. -/
inductive ValueProblem where
  /-- A whole number that does not fit into 64 bits. -/
  | wideInteger (n : Int)
  | unlike (text : Text) (expected : ScalarKind)
  | emptyTag
  | duplicateKey (key : Value)
  deriving Repr

/-- The wording of a problem. -/
def ValueProblem.message : ValueProblem → String
  | .wideInteger n =>
    "invalid type: integer `" ++ toString n ++ "` as " ++ (if n < 0 then "i128" else "u128") ++
      ", expected any YAML value"
  | .unlike text expected =>
    "invalid value: string " ++ String.ofList (Text.quoted text) ++ ", expected " ++ expected.text
  | .emptyTag => "empty YAML tag is not allowed"
  | .duplicateKey key =>
    "duplicate entry " ++ match key with
      | .null => "with null key"
      | .bool b => "with key `" ++ toString b ++ "`"
      | .number n => "with key " ++ String.ofList n.text
      | .string t => "with key " ++ String.ofList (Text.quoted t)
      | _ => "in YAML map"

/-! ## Null and truth values -/

/-- Whether a text is a spelling of null. -/
def isNull (t : Text) : Bool :=
  t == "null".toList || t == "Null".toList || t == "NULL".toList || t == ['~']

/-- The truth value that a text spells. -/
def parseBool? (t : Text) : Option Bool :=
  if t = "true".toList ∨ t = "True".toList ∨ t = "TRUE".toList then some true
  else if t = "false".toList ∨ t = "False".toList ∨ t = "FALSE".toList then some false
  else none

/-! ## Whole numbers -/

/-- The number that one or more digits denote. -/
def parseDigits? (radix : Nat) (t : Text) : Option Nat :=
  if t.isEmpty then none
  else Text.numberOf? radix t

/-- Whether a text starts with a sign. -/
def hasSign (t : Text) : Bool := t.head?.any fun c => c == '+' || c == '-'

/-- A text without one sign at its start. -/
def dropSign (t : Text) : Text := if hasSign t then t.drop 1 else t

/-- Whether a text has a zero too many in front to be a decimal number. -/
def hasLeadingZero (t : Text) : Bool :=
  match dropSign t with
  | '0' :: c :: rest => (c :: rest).all isDigit
  | _ => false

/-- The radix that the start of a text announces, and the digits after it. -/
def radixed? (t : Text) : Option (Nat × Text) :=
  match t with
  | '0' :: 'x' :: rest => some (16, rest)
  | '0' :: 'o' :: rest => some (8, rest)
  | '0' :: 'b' :: rest => some (2, rest)
  | _ => none

/-- The whole number that a text spells, of whatever size: digits with at most one sign, where a
radix may follow the sign. -/
def parseInteger? (t : Text) : Option Int :=
  let negative := t.head? == some '-'
  let magnitude := match radixed? (dropSign t) with
    | some (radix, digits) => parseDigits? radix digits
    | none => if hasLeadingZero t then none else parseDigits? 10 (dropSign t)
  magnitude.map fun n => if negative then -(n : Int) else n

/-- Whether a whole number fits into words of so many bits, one kind of them with a sign. -/
def fits (bits : Nat) (n : Int) : Bool :=
  if n < 0 then n.natAbs ≤ Nat.pow 2 (bits - 1) else n.natAbs < Nat.pow 2 bits

/-- A whole number that fits into 64 bits as a value, a larger one of at most 128 bits as a
problem; a still larger one is not read as a whole number. -/
def readInteger? (t : Text) : Option (Except ValueProblem Value) :=
  match parseInteger? t with
  | none => none
  | some n =>
    if fits 64 n then some (.ok (.number (.whole n)))
    else if fits 128 n then some (.error (.wideInteger n))
    else none

/-! ## Doubles -/

/-- The value of a decimal exponent, with its sign. -/
def parseExponent? (t : Text) : Option Int :=
  let negative := t.head? == some '-'
  (parseDigits? 10 (dropSign t)).map fun n => if negative then -(n : Int) else n

/-- The finite double nearest to a decimal number without sign: digits with at most one point among
them and perhaps an exponent. -/
def parseMagnitude? (t : Text) : Option Decimal.Magnitude :=
  let (whole, rest) := t.span isDigit
  let (fraction, rest) := match rest with
    | '.' :: rest => rest.span isDigit
    | _ => ([], rest)
  if whole.isEmpty && fraction.isEmpty then none
  else do
    let exponent ← match rest with
      | [] => some 0
      | c :: rest => if c = 'e' ∨ c = 'E' then parseExponent? rest else none
    let digits ← parseDigits? 10 (whole ++ fraction)
    Decimal.nearest digits (exponent - fraction.length)

/-- The double that a text spells. -/
def parseDouble? (t : Text) : Option Number :=
  let unsigned := dropSign t
  let negative := t.head? == some '-'
  if unsigned = ".inf".toList ∨ unsigned = ".Inf".toList ∨ unsigned = ".INF".toList then
    some (.infinite negative)
  else if t = ".nan".toList ∨ t = ".NaN".toList ∨ t = ".NAN".toList then some .notANumber
  else (parseMagnitude? unsigned).map (.double negative)

/-! ## Scalars -/

/-- What a plain scalar without a tag stands for. -/
def resolvePlain (t : Text) : Except ValueProblem Value :=
  if t.isEmpty || isNull t then .ok .null
  else
    match parseBool? t with
    | some b => .ok (.bool b)
    | none =>
      match readInteger? t with
      | some result => result
      | none =>
        match (if hasLeadingZero t then none else parseDouble? t) with
        | some n => .ok (.number n)
        | none => .ok (.string t)

/-- What a scalar without a tag stands for. -/
def resolveUntagged (t : Text) (style : Style) : Except ValueProblem Value :=
  if style = .plain then resolvePlain t else .ok (.string t)

/-- A tag of the YAML schema, in full. -/
def schemaTag (name : String) : List UInt8 := Text.encode ("tag:yaml.org,2002:" ++ name).toList

/-- What a scalar with a tag stands for, if the tag is none of the document's own. -/
def resolveTagged (tag : List UInt8) (t : Text) (style : Style) : Except ValueProblem Value :=
  let require (kind : ScalarKind) (value : Option Value) : Except ValueProblem Value :=
    match value with
    | some v => .ok v
    | none => .error (.unlike t kind)
  if tag = schemaTag "bool" then require .boolean ((parseBool? t).map .bool)
  else if tag = schemaTag "int" then (readInteger? t).getD (.error (.unlike t .integer))
  else if tag = schemaTag "float" then require .float ((parseDouble? t).map .number)
  else if tag = schemaTag "null" then require .null (if isNull t then some .null else none)
  else if tag.head? = some 0x21 then resolveUntagged t style
  else .ok (.string t)

end GraphLint.Yaml
