import GraphLint.Json
import GraphLint.Text.Digit
/-! # Reading JSON

The value that a text denotes, if it denotes one.  A reader of a part of a value answers what it has
read and the text after it. -/
namespace GraphLint.Json

/-- A reader of values of some kind. -/
abbrev Reader (α : Type) := Text → Option (α × Text)

/-- A text without the white space it starts with. -/
def skipBlanks (t : Text) : Text :=
  t.dropWhile fun c => c == ' ' || c == '\n' || c == '\t' || c == '\r'

/-- The character that a letter after a backslash stands for. -/
def escaped? : Char → Option Char
  | '"' => some '"'
  | '\\' => some '\\'
  | '/' => some '/'
  | 'b' => some '\x08'
  | 'f' => some '\x0c'
  | 'n' => some '\n'
  | 'r' => some '\r'
  | 't' => some '\t'
  | _ => none

/-- The character with a number. -/
def charOf? (n : Nat) : Option Char :=
  if h : n.isValidChar then some (Char.ofNatAux n h) else none

/-- The character that two halves of a pair stand for. -/
def pair? (high low : Nat) : Option Char :=
  if 0xD800 ≤ high ∧ high < 0xDC00 ∧ 0xDC00 ≤ low ∧ low < 0xE000 then
    charOf? (0x10000 + (high - 0xD800) * 0x400 + (low - 0xDC00))
  else none

/-- The rest of a string after its first quotation mark, up to and with the second. -/
def readString : Reader Text
  | '"' :: t => some ([], t)
  | '\\' :: 'u' :: a :: b :: c :: d :: t => do
    let n ← Text.numberOf? 16 [a, b, c, d]
    match charOf? n with
    | some x =>
      let (s, t) ← readString t
      return (x :: s, t)
    | none =>
      match t with
      | '\\' :: 'u' :: e :: f :: g :: h :: t => do
        let x ← pair? n (← Text.numberOf? 16 [e, f, g, h])
        let (s, t) ← readString t
        return (x :: s, t)
      | _ => none
  | '\\' :: c :: t => do
    let x ← escaped? c
    let (s, t) ← readString t
    return (x :: s, t)
  | c :: t =>
    if c.toNat < 0x20 then none
    else do
      let (s, t) ← readString t
      return (c :: s, t)
  | [] => none

/-- One or more digits. -/
def readDigits : Reader Text := fun t =>
  let digits := t.takeWhile Char.isDigit
  if digits.isEmpty then none else some (digits, t.drop digits.length)

/-- The whole part of a number, which has no zero too many. -/
def readWhole : Reader Text
  | '0' :: t => some (['0'], t)
  | t => readDigits t

/-- The part of a number after a point, if there is one. -/
def readFraction : Reader Text
  | '.' :: t => (readDigits t).map fun (digits, t) => ('.' :: digits, t)
  | t => some ([], t)

/-- The exponent of a number, if there is one. -/
def readExponent : Reader Text
  | c :: t =>
    if c = 'e' ∨ c = 'E' then
      let (sign, t) := match t with
        | '+' :: t => (['+'], t)
        | '-' :: t => (['-'], t)
        | t => ([], t)
      (readDigits t).map fun (digits, t) => ('e' :: sign ++ digits, t)
    else some ([], c :: t)
  | [] => some ([], [])

/-- A number without its sign. -/
def readUnsigned (negative : Bool) : Reader Json := fun t => do
  let (digits, t) ← readWhole t
  let (places, t) ← readFraction t
  let (exponent, t) ← readExponent t
  if places.isEmpty && exponent.isEmpty then
    let n ← Text.numberOf? 10 digits
    return (.whole (if negative then -(n : Int) else n), t)
  else
    return (.fraction ((if negative then ['-'] else []) ++ digits ++ places ++ exponent), t)

/-- How deep a value may be nested. -/
def depthLimit : Nat := 128

mutual

/-- A value with at most `depth` values around each other. -/
def readValue : (depth fuel : Nat) → Reader Json
  | 0, _, _ => none
  | _, 0, _ => none
  | depth + 1, fuel + 1, t =>
    match skipBlanks t with
    | '"' :: t => (readString t).map fun (s, t) => (.string (String.ofList s), t)
    | '[' :: t =>
      match skipBlanks t with
      | ']' :: t => some (.array [], t)
      | t => (readItems depth fuel t).map fun (items, t) => (.array items, t)
    | '{' :: t =>
      match skipBlanks t with
      | '}' :: t => some (.object [], t)
      | t => (readFields depth fuel t).map fun (fields, t) => (.object fields, t)
    | '-' :: t => readUnsigned true t
    | 't' :: 'r' :: 'u' :: 'e' :: t => some (.bool true, t)
    | 'f' :: 'a' :: 'l' :: 's' :: 'e' :: t => some (.bool false, t)
    | 'n' :: 'u' :: 'l' :: 'l' :: t => some (.null, t)
    | t => readUnsigned false t

/-- The items of an array, up to and with its closing bracket. -/
def readItems : (depth fuel : Nat) → Reader (List Json)
  | _, 0, _ => none
  | depth, fuel + 1, t => do
    let (j, t) ← readValue depth fuel t
    match skipBlanks t with
    | ',' :: t =>
      let (items, t) ← readItems depth fuel t
      return (j :: items, t)
    | ']' :: t => return ([j], t)
    | _ => none

/-- The fields of an object, up to and with its closing brace. -/
def readFields : (depth fuel : Nat) → Reader (List (String × Json))
  | _, 0, _ => none
  | depth, fuel + 1, t =>
    match skipBlanks t with
    | '"' :: t => do
      let (name, t) ← readString t
      match skipBlanks t with
      | ':' :: t =>
        let (j, t) ← readValue depth fuel t
        match skipBlanks t with
        | ',' :: t =>
          let (fields, t) ← readFields depth fuel t
          return ((String.ofList name, j) :: fields, t)
        | '}' :: t => return ([(String.ofList name, j)], t)
        | _ => none
      | _ => none
    | _ => none

end

/-- The value that a text denotes. -/
def read? (t : Text) : Option Json :=
  match readValue depthLimit (t.length + 1) t with
  | some (j, rest) => if (skipBlanks rest).isEmpty then some j else none
  | none => none

end GraphLint.Json
