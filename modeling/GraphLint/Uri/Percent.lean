import GraphLint.Text.Digit
import GraphLint.Text.Utf8
/-! # Percent-encoding

In each part of a URI some characters are written as their octets, a percent sign and two digits for
each.  Decoding leaves a percent sign without two digits as it is. -/
namespace GraphLint.Uri

/-- Which characters a part of a URI encodes. -/
abbrev EncodeSet := Char → Bool

/-- Every part encodes controls and whatever is not ASCII. -/
def controlSet : EncodeSet := fun c => c.toNat < 0x20 || 0x7E < c.toNat

/-- A query also encodes the space, the quotation mark, the number sign and the angle brackets. -/
def querySet : EncodeSet := fun c =>
  controlSet c || c == ' ' || c == '"' || c == '#' || c == '<' || c == '>'

/-- A query of a special scheme encodes the apostrophe too. -/
def specialQuerySet : EncodeSet := fun c => querySet c || c == '\''

/-- What a fragment encodes. -/
def fragmentSet : EncodeSet := fun c =>
  controlSet c || c == ' ' || c == '"' || c == '<' || c == '>' || c == '`'

/-- What a path encodes. -/
def pathSet : EncodeSet := fun c =>
  fragmentSet c || c == '#' || c == '?' || c == '{' || c == '}'

/-- What a user name and a password encode. -/
def userSet : EncodeSet := fun c =>
  pathSet c || c == '/' || c == ':' || c == ';' || c == '=' || c == '@' || c == '[' ||
    c == '\\' || c == ']' || c == '^' || c == '|'

/-- A digit below sixteen. -/
def hexDigit (n : Nat) : Char :=
  if n < 10 then Char.ofNat ('0'.toNat + n) else Char.ofNat ('A'.toNat + (n - 10))

/-- An encoded octet. -/
def encodeOctet (o : UInt8) : Text := ['%', hexDigit (o.toNat / 16), hexDigit (o.toNat % 16)]

/-- A character in a part of a URI. -/
def encodeChar (set : EncodeSet) (c : Char) : Text :=
  if set c then (Text.encodeChar c).flatMap encodeOctet else [c]

/-- A text in a part of a URI. -/
def encode (set : EncodeSet) (t : Text) : Text := t.flatMap (encodeChar set)

/-- The octets that a part of a URI stands for. -/
def decode : Text → List UInt8
  | [] => []
  | '%' :: high :: low :: rest =>
    match Text.hexValue? high, Text.hexValue? low with
    | some h, some l => UInt8.ofNat (16 * h + l) :: decode rest
    | _, _ => Text.encodeChar '%' ++ decode (high :: low :: rest)
  | c :: rest => Text.encodeChar c ++ decode rest
termination_by t => t.length

end GraphLint.Uri
