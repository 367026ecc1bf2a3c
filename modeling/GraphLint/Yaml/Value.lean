import GraphLint.Decimal.Shortest
import GraphLint.Text.Quoted
/-! # Values

What a document stands for.  Two values are the same when they have the same parts; the entries of a
mapping have no order, and a number that is not a number is the same as itself.  No mapping holds two
entries with the same key. -/
namespace GraphLint.Yaml

/-- A number.  A whole number has 64 bits; every other number is a double. -/
inductive Number where
  | whole (n : Int)
  | notANumber
  | infinite (negative : Bool)
  | double (negative : Bool) (magnitude : Decimal.Magnitude)
  deriving DecidableEq, Repr

namespace Number

/-- Whether two numbers are the same key.  The two zeros among the doubles are. -/
def same : Number → Number → Bool
  | .double a m, .double b n => m == n && (a == b || m.significand == 0)
  | x, y => x == y

/-- How a number is written. -/
def text : Number → Text
  | .whole n => (if n < 0 then ['-'] else []) ++ Nat.toDigits 10 n.natAbs
  | .notANumber => ".nan".toList
  | .infinite negative => if negative then "-.inf".toList else ".inf".toList
  | .double negative m =>
    (if negative then ['-'] else []) ++
      if m.significand = 0 then "0.0".toList else Decimal.write (Decimal.shortest m)

end Number

/-- The value of a node. -/
inductive Value where
  | null
  | bool (b : Bool)
  | number (n : Number)
  | string (t : Text)
  | sequence (items : List Value)
  | mapping (entries : List (Value × Value))
  | tagged (tag : List UInt8) (value : Value)
  deriving Repr

/-- A tag without the exclamation mark that starts it, unless it is nothing else. -/
def bareTag (tag : List UInt8) : List UInt8 :=
  match tag with
  | 0x21 :: c :: rest => c :: rest
  | _ => tag

namespace Value

mutual

/-- Whether two values are the same. -/
def same : Value → Value → Bool
  | .null, .null => true
  | .bool a, .bool b => a == b
  | .number a, .number b => a.same b
  | .string a, .string b => a == b
  | .sequence xs, .sequence ys => sameItems xs ys
  | .mapping xs, .mapping ys => xs.length == ys.length && haveSameEntries xs ys
  | .tagged a x, .tagged b y => bareTag a == bareTag b && same x y
  | _, _ => false

/-- Whether two lists hold the same values in the same order. -/
def sameItems : List Value → List Value → Bool
  | [], [] => true
  | x :: xs, y :: ys => same x y && sameItems xs ys
  | _, _ => false

/-- Whether all entries of the first list are in the second one. -/
def haveSameEntries : List (Value × Value) → List (Value × Value) → Bool
  | [], _ => true
  | (k, v) :: xs, ys => ys.any (fun e => same k e.1 && same v e.2) && haveSameEntries xs ys

end

end Value
end GraphLint.Yaml
