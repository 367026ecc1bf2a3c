import GraphLint.Decimal.Nearest
/-! # The shortest decimal of a double

The reals that round to a double form an interval around it, closed when the double's significand is
even.  Of the decimals in that interval those with the fewest digits are written, and of these the
nearest to the double, the even one in a tie.  On the grid of the multiples of a power of ten only
the two neighbours of the double need to be looked at. -/
namespace GraphLint.Decimal

/-- A decimal number: `digits * 10 ^ power`. -/
structure Digits where
  digits : Nat
  power : Int
  deriving DecidableEq, Repr

/-- The reals that round to a double, over the common denominator `den`: the double itself is
`num / den`, and the interval reaches from `low / den` to `high / den`. -/
structure RoundingInterval where
  num : Nat
  low : Nat
  high : Nat
  den : Nat
  closed : Bool

/-- The rounding interval of a positive magnitude.  Below a power of two the doubles are twice as
dense, so the lower half of the interval is half as long. -/
def Magnitude.interval (m : Magnitude) : RoundingInterval :=
  let unit := 4 * Nat.pow 2 m.exponent.toNat
  let tight := m.significand = Nat.pow 2 52 ∧ Magnitude.leastExponent < m.exponent
  ⟨m.significand * unit, m.significand * unit - (if tight then unit / 4 else unit / 2),
    m.significand * unit + unit / 2, 4 * Nat.pow 2 (-m.exponent).toNat, m.significand % 2 = 0⟩

/-- Whether the decimal `n * 10 ^ power` lies in an interval. -/
def RoundingInterval.has (i : RoundingInterval) (n : Nat) (power : Int) : Bool :=
  let value := n * Nat.pow 10 power.toNat * i.den
  let unit := Nat.pow 10 (-power).toNat
  if i.closed then i.low * unit ≤ value && value ≤ i.high * unit
  else i.low * unit < value && value < i.high * unit

/-- The best decimal on the grid of `10 ^ power`, if one is in the interval. -/
def RoundingInterval.onGrid? (i : RoundingInterval) (power : Int) : Option Digits :=
  let unit := i.den * Nat.pow 10 power.toNat
  let num := i.num * Nat.pow 10 (-power).toNat
  let below := num / unit
  let nearer := roundDiv num unit
  let farther := if nearer = below then below + 1 else below
  if i.has nearer power then some ⟨nearer, power⟩
  else if i.has farther power then some ⟨farther, power⟩
  else none

/-- The first grid of `count` ones, each ten times finer than the one before, that has a decimal in
the interval. -/
def RoundingInterval.search (i : RoundingInterval) : (count : Nat) → (power : Int) → Digits
  | 0, power => ⟨i.num / i.den, power⟩
  | count + 1, power =>
    match i.onGrid? power with
    | some d => d
    | none => i.search count (power - 1)

/-- A decimal without zeros at its end, at most `fuel` of them. -/
def Digits.trim : (fuel : Nat) → Digits → Digits
  | 0, d => d
  | fuel + 1, d =>
    if d.digits ≠ 0 ∧ d.digits % 10 = 0 then Digits.trim fuel ⟨d.digits / 10, d.power + 1⟩ else d

/-- The shortest decimal that reads back as a magnitude. -/
def shortest (m : Magnitude) : Digits :=
  if m.significand = 0 then ⟨0, 0⟩
  else
    let (num, den) := m.fraction
    let place : Int := if den ≤ num then digitCount (num / den) else 1 - digitCount (den / num)
    (m.interval.search 20 (place + 1)).trim 20

/-- Zeros in a row. -/
def zeros (n : Nat) : List Char := List.replicate n '0'

/-- How a double is written: with a point while the point is at most 16 places right of the first
digit and at most 5 places left of it, and else with an exponent. -/
def write (d : Digits) : List Char :=
  let digits := Nat.toDigits 10 d.digits
  let count := digits.length
  let point : Int := count + d.power
  if 0 ≤ d.power ∧ point ≤ 16 then digits ++ zeros d.power.toNat ++ ".0".toList
  else if 0 < point ∧ point ≤ 16 then
    digits.take point.toNat ++ '.' :: digits.drop point.toNat
  else if -5 < point ∧ point ≤ 0 then "0.".toList ++ zeros (-point).toNat ++ digits
  else
    let exponent := point - 1
    let sign := if exponent < 0 then ['-'] else []
    let fraction := if count = 1 then [] else '.' :: digits.drop 1
    digits.take 1 ++ fraction ++ 'e' :: sign ++ Nat.toDigits 10 exponent.natAbs

end GraphLint.Decimal
