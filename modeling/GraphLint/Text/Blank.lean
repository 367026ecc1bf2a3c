/-! # Texts and their white space

A text is a list of Unicode scalar values, so that a position in it is a number of
characters and every operation is a recursion on a list.  White space is the Unicode
property `White_Space`; trimming removes it from either end. -/
namespace GraphLint

/-- A document, a line, a path or any other text, as the list of its characters. -/
abbrev Text := List Char

namespace Text

/-- The Unicode property `White_Space`: the five controls from tab to carriage return, the
space, the next-line control, the no-break space and the separators. -/
def isBlank (c : Char) : Bool :=
  let n := c.toNat
  (9 ≤ n && n ≤ 13) || n == 0x20 || n == 0x85 || n == 0xA0 || n == 0x1680 ||
    (0x2000 ≤ n && n ≤ 0x200A) || n == 0x2028 || n == 0x2029 || n == 0x202F ||
    n == 0x205F || n == 0x3000

/-- The text without the white space it starts with. -/
def trimStart (t : Text) : Text := t.dropWhile isBlank

/-- The text without the white space it ends with. -/
def trimEnd (t : Text) : Text := (t.reverse.dropWhile isBlank).reverse

/-- The text without the white space at its two ends. -/
def trim (t : Text) : Text := trimEnd (trimStart t)

/-- The text without every `c` at its end. -/
def trimEndChar (c : Char) (t : Text) : Text := (t.reverse.dropWhile (· == c)).reverse

/-- What follows `lead` in a text that starts with it. -/
def after? (lead t : Text) : Option Text :=
  if lead.isPrefixOf t then some (t.drop lead.length) else none

/-- What precedes `tail` in a text that ends with it. -/
def before? (tail t : Text) : Option Text :=
  if tail.isSuffixOf t then some (t.take (t.length - tail.length)) else none

/-- Whether `part` occurs somewhere in a text. -/
def occurs (part : Text) : Text → Bool
  | [] => part.isEmpty
  | c :: t => part.isPrefixOf (c :: t) || occurs part t

end Text
end GraphLint
