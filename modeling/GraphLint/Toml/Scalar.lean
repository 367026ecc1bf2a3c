import GraphLint.Text.Digit
import GraphLint.Toml.Value
/-! # TOML scalars

Strings, numbers, dates and times.  A reader of a kind of text answers what it has read and the text
after it, or nothing when no settings file can go on like that. -/
namespace GraphLint.Toml

/-- A reader of values of some kind. -/
abbrev Reader (α : Type) := Text → Option (α × Text)

/-- Whether a character may stand in a comment or a literal string: no control but the tab. -/
def isPrintable (c : Char) : Bool := c == '\t' || (' ' ≤ c && c != '\x7f')

/-- Past a line break. -/
def afterBreak? : Text → Option Text
  | '\n' :: rest => some rest
  | '\r' :: '\n' :: rest => some rest
  | _ => none

/-- Past spaces, tabs and line breaks, at most `fuel` of them. -/
def skipBlanks : (fuel : Nat) → Text → Text
  | 0, t => t
  | fuel + 1, t =>
    match afterBreak? t with
    | some rest => skipBlanks fuel rest
    | none =>
      match t with
      | c :: rest => if Text.isSpaceOrTab c then skipBlanks fuel rest else t
      | [] => []

/-! ## Strings -/

/-- The character with a number in `count` hexadecimal digits. -/
def readNumbered (count : Nat) : Reader Char := fun t => do
  let digits := t.take count
  if digits.length < count then none
  else
    let n ← Text.numberOf? 16 digits
    if h : n.isValidChar then some (Char.ofNatAux n h, t.drop count) else none

/-- The character escaped after a backslash. -/
def readEscape : Reader Char
  | 'b' :: rest => some ('\x08', rest)
  | 't' :: rest => some ('\t', rest)
  | 'n' :: rest => some ('\n', rest)
  | 'f' :: rest => some ('\x0c', rest)
  | 'r' :: rest => some ('\r', rest)
  | '"' :: rest => some ('"', rest)
  | '\\' :: rest => some ('\\', rest)
  | 'u' :: rest => readNumbered 4 rest
  | 'U' :: rest => readNumbered 8 rest
  | _ => none

/-- The rest of a string on one line up to the closing `quote`, in at most `fuel` characters. -/
def readLineString (quote : Char) : (fuel : Nat) → Reader Text
  | 0, _ => none
  | fuel + 1, t =>
    match t with
    | [] => none
    | c :: rest =>
      if c = quote then some ([], rest)
      else if c = '\\' ∧ quote = '"' then do
        let (x, rest) ← readEscape rest
        let (s, rest) ← readLineString quote fuel rest
        return (x :: s, rest)
      else if isPrintable c then do
        let (s, rest) ← readLineString quote fuel rest
        return (c :: s, rest)
      else none

/-- The rest of a string over several lines up to three times `quote`; two more quotes before the
closing ones belong to the string. -/
def readLinesString (quote : Char) : (fuel : Nat) → Reader Text
  | 0, _ => none
  | fuel + 1, t =>
    match afterBreak? t, t with
    | some rest, _ => do
      let (s, rest) ← readLinesString quote fuel rest
      return ('\n' :: s, rest)
    | none, [] => none
    | none, c :: rest =>
      let quotes := (t.takeWhile (· == quote)).length
      if 3 ≤ quotes then
        let kept := min quotes 5 - 3
        some (List.replicate kept quote, t.drop (kept + 3))
      else if c = '\\' ∧ quote = '"' then
        match afterBreak? (Text.dropSpaces rest) with
        | some after => readLinesString quote fuel (skipBlanks (after.length + 1) after)
        | none => do
          let (x, rest) ← readEscape rest
          let (s, rest) ← readLinesString quote fuel rest
          return (x :: s, rest)
      else if isPrintable c then do
        let (s, rest) ← readLinesString quote fuel rest
        return (c :: s, rest)
      else none

/-- A string that starts with `quote`. -/
def readString (quote : Char) : Reader Text := fun t =>
  match Text.after? [quote, quote, quote] t with
  | some rest =>
    let body := (afterBreak? rest).getD rest
    readLinesString quote (body.length + 1) body
  | none => (Text.after? [quote] t).bind fun rest => readLineString quote (rest.length + 1) rest

/-! ## Numbers -/

/-- Whether a character is a digit of a radix. -/
def isDigitOf (radix : Nat) (c : Char) : Bool := (Text.digitValue? radix c).isSome

/-- Digits with single underscores between them. -/
def readDigits (radix : Nat) : (fuel : Nat) → Reader Text
  | 0, _ => none
  | fuel + 1, t =>
    let digits := t.takeWhile (isDigitOf radix)
    if digits.isEmpty then none
    else
      match t.drop digits.length with
      | '_' :: rest => do
        let (more, rest) ← readDigits radix fuel rest
        return (digits ++ more, rest)
      | rest => some (digits, rest)

/-- Digits of a text in a radix, underscores aside. -/
def readRadix (radix : Nat) : Reader Text := fun t => readDigits radix (t.length + 1) t

/-- The number that digits denote. -/
def numberOf (radix : Nat) (digits : Text) : Nat :=
  digits.foldl (fun n d => n * radix + (Text.hexValue? d).getD 0) 0

/-- The digits of a whole decimal number: a zero alone, or digits that do not start with one. -/
def readWhole : Reader Text
  | '0' :: rest => some (['0'], rest)
  | t => readRadix 10 t

/-- An exponent, if one starts here; the value is its number. -/
def readExponent : Reader (Option Int)
  | c :: rest =>
    if c = 'e' ∨ c = 'E' then do
      let negative := rest.head? == some '-'
      let unsigned := if rest.head?.any (fun x => x == '+' || x == '-') then rest.drop 1 else rest
      let (digits, rest) ← readRadix 10 unsigned
      let n : Int := numberOf 10 digits
      return (some (if negative then -n else n), rest)
    else some (none, c :: rest)
  | [] => some (none, [])

/-- Whether a decimal number is too large for a double.  A double ends half a unit after its largest
value, which is `2 ^ 1024 - 2 ^ 970`. -/
def isTooLarge (digits : Text) (power : Int) : Bool :=
  let n := numberOf 10 digits
  let place := (digits.dropWhile (· == '0')).length + power
  if n = 0 ∨ place < 309 then false
  else if 309 < place then true
  else (Nat.pow 2 1024 - Nat.pow 2 970) * Nat.pow 10 (-power).toNat ≤ n * Nat.pow 10 power.toNat

/-- A number without radix.  A whole number has 64 bits; of the numbers with a fraction or an exponent
only the positive ones can be too large. -/
def readDecimal : Reader Value := fun t => do
  let negative := t.head? == some '-'
  let unsigned := if t.head?.any (fun x => x == '+' || x == '-') then t.drop 1 else t
  match Text.after? "inf".toList unsigned, Text.after? "nan".toList unsigned with
  | some rest, _ => return (.number, rest)
  | none, some rest => return (.number, rest)
  | none, none =>
    let (whole, rest) ← readWhole unsigned
    let (fraction, rest) ← match rest with
      | '.' :: rest => do
        let (digits, rest) ← readRadix 10 rest
        pure (some digits, rest)
      | _ => pure (none, rest)
    let (exponent, rest) ← readExponent rest
    if fraction.isNone && exponent.isNone then
      let limit := if negative then Nat.pow 2 63 else Nat.pow 2 63 - 1
      if numberOf 10 whole ≤ limit then return (.number, rest) else none
    else
      let places := fraction.getD []
      let tooLarge := isTooLarge (whole ++ places) (exponent.getD 0 - places.length)
      if tooLarge && !negative then none else return (.number, rest)

/-- A number. -/
def readNumber : Reader Value := fun t =>
  let radixed (radix : Nat) (rest : Text) : Option (Value × Text) := do
    let (digits, rest) ← readRadix radix rest
    if numberOf radix digits < Nat.pow 2 63 then return (.number, rest) else none
  match t with
  | '0' :: 'x' :: rest => radixed 16 rest
  | '0' :: 'o' :: rest => radixed 8 rest
  | '0' :: 'b' :: rest => radixed 2 rest
  | _ => readDecimal t

/-! ## Dates and times -/

/-- A number of exactly `count` digits between two bounds. -/
def readFixed (count low high : Nat) : Reader Nat := fun t =>
  let digits := t.take count
  let n := numberOf 10 digits
  if digits.length = count ∧ digits.all (isDigitOf 10) ∧ low ≤ n ∧ n ≤ high then
    some (n, t.drop count)
  else none

/-- The length of a month. -/
def monthLength (year month : Nat) : Nat :=
  let leap := year % 4 = 0 ∧ (year % 100 ≠ 0 ∨ year % 400 = 0)
  if month = 2 then (if leap then 29 else 28)
  else if month = 4 ∨ month = 6 ∨ month = 9 ∨ month = 11 then 30
  else 31

/-- Whether a text starts with a given number of digits and a mark after them. -/
def startsField (count : Nat) (mark : Char) (t : Text) : Bool :=
  let digits := t.take count
  digits.length == count && digits.all (isDigitOf 10) && t[count]? == some mark

/-- A date, whose year has been seen to be followed by a dash. -/
def readDate : Reader Unit := fun t => do
  let (year, rest) ← readFixed 4 0 9999 t
  let rest ← Text.after? ['-'] rest
  let (month, rest) ← readFixed 2 1 12 rest
  let rest ← Text.after? ['-'] rest
  let (_, rest) ← readFixed 2 1 (monthLength year month) rest
  return ((), rest)

/-- A time of the day, perhaps with parts of a second. -/
def readTime : Reader Unit := fun t => do
  let (_, rest) ← readFixed 2 0 23 t
  let rest ← Text.after? [':'] rest
  let (_, rest) ← readFixed 2 0 59 rest
  let rest ← Text.after? [':'] rest
  let (_, rest) ← readFixed 2 0 60 rest
  match rest with
  | '.' :: parts =>
    let digits := parts.takeWhile (isDigitOf 10)
    if digits.isEmpty then return ((), rest) else return ((), parts.drop digits.length)
  | _ => return ((), rest)

/-- The offset of a time from universal time, if one is given. -/
def readOffset : Reader Unit := fun t =>
  match t with
  | c :: rest =>
    if c = 'Z' ∨ c = 'z' then some ((), rest)
    else if c = '+' ∨ c = '-' then do
      let (_, rest) ← readFixed 2 0 23 rest
      let rest ← Text.after? [':'] rest
      let (_, rest) ← readFixed 2 0 59 rest
      return ((), rest)
    else some ((), t)
  | [] => some ((), [])

/-- Whether a character may stand between a date and a time. -/
def isTimeMark (c : Char) : Bool := c == 'T' || c == 't' || c == ' '

/-- A date, a time or both. -/
def readMoment : Reader Value := fun t =>
  if startsField 4 '-' t then do
    let (_, rest) ← readDate t
    match rest with
    | c :: time =>
      if isTimeMark c && startsField 2 ':' time && (readFixed 2 0 23 time).isSome then
        let (_, rest) ← readTime time
        let (_, rest) ← readOffset rest
        return (.moment, rest)
      else return (.moment, rest)
    | [] => return (.moment, [])
  else do
    let (_, rest) ← readTime t
    return (.moment, rest)

/-- Whether a value that starts like a number is a date or a time. -/
def startsMoment (t : Text) : Bool := startsField 4 '-' t || startsField 2 ':' t

end GraphLint.Toml
