import GraphLint.Text.Blank
/-! # Digits

The values of digits, and numbers written with them. -/
namespace GraphLint.Text

/-- The value of a hexadecimal digit. -/
def hexValue? (c : Char) : Option Nat :=
  if '0' ≤ c && c ≤ '9' then some (c.toNat - '0'.toNat)
  else if 'a' ≤ c && c ≤ 'f' then some (c.toNat - 'a'.toNat + 10)
  else if 'A' ≤ c && c ≤ 'F' then some (c.toNat - 'A'.toNat + 10)
  else none

/-- The value of a digit in a radix of at most sixteen. -/
def digitValue? (radix : Nat) (c : Char) : Option Nat := (hexValue? c).filter (· < radix)

/-- The number that digits denote; there is none if one of them is no digit of the radix. -/
def numberOf? (radix : Nat) (digits : Text) : Option Nat :=
  digits.foldlM (fun n d => (digitValue? radix d).map (n * radix + ·)) 0

end GraphLint.Text
