import GraphLint.Text.Digit
/-! # Punycode

A label of a domain name that is not ASCII is written in ASCII.  The ASCII characters come first.  The
others follow as one number each: how far a counter over all pairs of a character number and a place
has to advance until the character is inserted.  These numbers are written with a digit weight that
adapts to their size. -/
namespace GraphLint.Uri.Punycode

/-- The digit of a value below thirty-six. -/
def digit (n : Nat) : Char :=
  if n < 26 then Char.ofNat ('a'.toNat + n) else Char.ofNat ('0'.toNat + (n - 26))

/-- The least digit value that does not end a number, by the position of the digit. -/
def threshold (bias k : Nat) : Nat := min 26 (max 1 (k - bias))

/-- A number from its lowest digit on; `k` counts digits in steps of thirty-six. -/
def number (bias : Nat) : (fuel : Nat) → (k n : Nat) → Text
  | 0, _, _ => []
  | fuel + 1, k, n =>
    let t := threshold bias k
    if n < t then [digit n]
    else digit (t + (n - t) % (36 - t)) :: number bias fuel (k + 36) ((n - t) / (36 - t))

/-- How often a number is divided before it is small, and what is left. -/
def shrink : (fuel : Nat) → (delta steps : Nat) → Nat × Nat
  | 0, delta, steps => (delta, steps)
  | fuel + 1, delta, steps =>
    if 455 < delta then shrink fuel (delta / 35) (steps + 36) else (delta, steps)

/-- The weight of the digits after a number. -/
def adapt (delta count : Nat) (first : Bool) : Nat :=
  let delta := if first then delta / 700 else delta / 2
  let (delta, steps) := shrink delta (delta + delta / count) 0
  steps + 36 * delta / (delta + 38)

/-- The encoder between two numbers. -/
structure State where
  delta : Nat
  bias : Nat
  /-- How many characters have been written. -/
  count : Nat
  first : Bool
  output : Text
  deriving Repr

/-- Passes over one character of the label while characters with number `n` are inserted. -/
def State.pass (n : Nat) (s : State) (c : Char) : State :=
  if c.toNat < n then { s with delta := s.delta + 1 }
  else if c.toNat = n then
    { delta := 0, bias := adapt s.delta (s.count + 1) s.first, count := s.count + 1, first := false,
      output := s.output ++ number s.bias (s.delta + 1) 36 s.delta }
  else s

/-- Inserts the characters of a label whose numbers are `numbers`, which ascend. -/
def insertAll (label : Text) : (numbers : List Nat) → (n : Nat) → State → State
  | [], _, s => s
  | m :: rest, n, s =>
    let s := { s with delta := s.delta + (m - n) * (s.count + 1) }
    let s := label.foldl (State.pass m) s
    insertAll label rest (m + 1) { s with delta := s.delta + 1 }

/-- A label in ASCII, without the mark that it is encoded. -/
def encode (label : Text) : Text :=
  let basic := label.filter fun c => c.toNat < 0x80
  let others := label.filter fun c => 0x80 ≤ c.toNat
  let numbers := (others.map Char.toNat).eraseDups.mergeSort (· ≤ ·)
  let lead := if basic.isEmpty then [] else basic ++ ['-']
  (insertAll label numbers 0x80 ⟨0, 72, basic.length, true, lead⟩).output

end GraphLint.Uri.Punycode
