import GraphLint.Text.Hidden
/-! # Quoted texts in messages

A text in a message stands between double quotes, with a backslash before what would end it and an
escape for every character that shows nothing of its own. -/
namespace GraphLint.Text

/-- How a character is written between quotes. -/
def quoteChar (c : Char) : Text :=
  if c = '\t' then ['\\', 't']
  else if c = '\r' then ['\\', 'r']
  else if c = '\n' then ['\\', 'n']
  else if c = '\x00' then ['\\', '0']
  else if c = '"' then ['\\', '"']
  else if c = '\\' then ['\\', '\\']
  else if isHidden c then ['\\', 'u', '{'] ++ Nat.toDigits 16 c.toNat ++ ['}']
  else [c]

/-- A text between quotes. -/
def quoted (t : Text) : Text := '"' :: t.flatMap quoteChar ++ ['"']

end GraphLint.Text
