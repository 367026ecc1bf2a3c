import GraphLint.Text.Blank
/-! # The nearest double

A finite binary64 magnitude is `significand * 2 ^ exponent` with a significand below `2 ^ 53` and an
exponent between -1074 and 971; the representation is unique once the significand is at least
`2 ^ 52` or the exponent is the least one.  A decimal number is rounded to the nearest magnitude in
exact arithmetic, a tie going to the even significand. -/
namespace GraphLint.Decimal

/-- The absolute value of a finite double. -/
structure Magnitude where
  significand : Nat
  exponent : Int
  deriving DecidableEq, Repr

namespace Magnitude

/-- The least exponent of a double. -/
def leastExponent : Int := -1074

/-- The greatest exponent of a double. -/
def greatestExponent : Int := 971

/-- Zero. -/
def zero : Magnitude := ⟨0, leastExponent⟩

/-- The value, as a fraction with a power of two as denominator. -/
def fraction (m : Magnitude) : Nat × Nat :=
  (m.significand * Nat.pow 2 m.exponent.toNat, Nat.pow 2 (-m.exponent).toNat)

end Magnitude

/-- The quotient rounded to a whole number, a tie going to the even one. -/
def roundDiv (num den : Nat) : Nat :=
  let q := num / den
  let rest := 2 * (num % den)
  if rest < den || (rest == den && q % 2 == 0) then q else q + 1

/-- A fraction divided by a power of two. -/
def scale (num den : Nat) (exponent : Int) : Nat × Nat :=
  (num * Nat.pow 2 (-exponent).toNat, den * Nat.pow 2 exponent.toNat)

/-- The exponent at which the quotient of a positive fraction has 53 binary digits, if a double may
have that exponent, and the least exponent otherwise. -/
def exponentFor (num den : Nat) : Int :=
  let guess := (Nat.log2 num : Int) - Nat.log2 den - 53
  let (n, d) := scale num den guess
  max Magnitude.leastExponent (if n / d < Nat.pow 2 53 then guess else guess + 1)

/-- The magnitude nearest to a fraction; nothing when the fraction is too large. -/
def nearestFraction (num den : Nat) : Option Magnitude :=
  if num = 0 then some .zero
  else
    let exponent := exponentFor num den
    let (n, d) := scale num den exponent
    let significand := roundDiv n d
    let m : Magnitude :=
      if significand = Nat.pow 2 53 then ⟨Nat.pow 2 52, exponent + 1⟩ else ⟨significand, exponent⟩
    if m.exponent ≤ Magnitude.greatestExponent then some m else none

/-- The number of decimal digits of a number. -/
def digitCount (n : Nat) : Nat := (Nat.toDigits 10 n).length

/-- The magnitude nearest to `digits * 10 ^ power`; nothing when it is too large.  Numbers far
outside the range of doubles are decided by the place of their first digit. -/
def nearest (digits : Nat) (power : Int) : Option Magnitude :=
  let place := digitCount digits + power
  if digits = 0 ∨ place < -330 then some .zero
  else if 310 < place then none
  else nearestFraction (digits * Nat.pow 10 power.toNat) (Nat.pow 10 (-power).toNat)

end GraphLint.Decimal
