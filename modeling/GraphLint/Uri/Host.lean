import GraphLint.Text.Split
import GraphLint.Uri.Percent
import GraphLint.Uri.Punycode
/-! # Hosts

The host of a URI in its normal form.  For a special scheme a host is a domain name, an IPv4 address in
any of its spellings, or an IPv6 address in brackets; for every other scheme it is any text without
delimiters. -/
namespace GraphLint

/-- Why a text is no URI. -/
inductive UriFault where
  | relative
  | emptyHost
  | invalidPort
  | invalidIpv4
  | invalidIpv6
  | invalidDomain
  | invalidHostCharacter
  deriving DecidableEq, Repr

/-- The wording of a fault. -/
def UriFault.text : UriFault → String
  | relative => "relative URL without a base"
  | emptyHost => "empty host"
  | invalidPort => "invalid port number"
  | invalidIpv4 => "invalid IPv4 address"
  | invalidIpv6 => "invalid IPv6 address"
  | invalidDomain => "invalid international domain name"
  | invalidHostCharacter => "invalid domain character"

namespace Uri

/-- A number in decimal digits. -/
def decimal (n : Nat) : Text := Nat.toDigits 10 n

/-! ## IPv4 -/

/-- The number that a part of an IPv4 address spells: hexadecimal after `0x`, octal after another zero,
and decimal otherwise. -/
def ipv4Number? : Text → Option Nat
  | [] => none
  | '0' :: 'x' :: digits => Text.numberOf? 16 digits
  | '0' :: 'X' :: digits => Text.numberOf? 16 digits
  | '0' :: digits => Text.numberOf? 8 digits
  | digits => Text.numberOf? 10 digits

/-- The parts of a domain name, without the empty one after a dot at its end. -/
def labels (domain : Text) : List Text :=
  let parts := Text.splitAt '.' domain
  if parts.getLast? = some [] ∧ parts.length ≠ 1 then parts.dropLast else parts

/-- Whether a domain name has to be an IPv4 address. -/
def endsInNumber (domain : Text) : Bool :=
  match (labels domain).getLast? with
  | none => false
  | some last => (!last.isEmpty && last.all Char.isDigit) || (ipv4Number? last).isSome

/-- The address whose parts are these numbers: all but the last one are octets. -/
def ipv4OfParts? : (octets : Nat) → List Nat → Option Nat
  | _, [] => none
  | octets, [n] => if n < Nat.pow 256 octets then some n else none
  | 0, _ => none
  | octets + 1, n :: rest =>
    if n < 256 then (ipv4OfParts? octets rest).map (n * Nat.pow 256 octets + ·) else none

/-- An IPv4 address in its normal form. -/
def printIpv4 (n : Nat) : Text :=
  Text.joinWith '.'
    [decimal (n / 0x1000000), decimal (n / 0x10000 % 0x100), decimal (n / 0x100 % 0x100),
      decimal (n % 0x100)]

/-- The IPv4 address that a domain name spells. -/
def readIpv4 (domain : Text) : Except UriFault Text :=
  match ((labels domain).mapM ipv4Number?).bind (ipv4OfParts? 4) with
  | some n => .ok (printIpv4 n)
  | none => .error .invalidIpv4

/-! ## IPv6 -/

/-- An octet in decimal, without a zero too many. -/
def ipv4Octet? (t : Text) : Option Nat :=
  if t.isEmpty || (t.head? == some '0' && 1 < t.length) then none
  else (Text.numberOf? 10 t).filter (· < 256)

/-- The two groups that an IPv4 address at the end of an IPv6 address stands for. -/
def embeddedGroups? (t : Text) : Option (List Nat) :=
  match (Text.splitAt '.' t).mapM ipv4Octet? with
  | some [a, b, c, d] => some [256 * a + b, 256 * c + d]
  | _ => none

/-- A group of at most four hexadecimal digits. -/
def group? (t : Text) : Option Nat :=
  if t.isEmpty || 4 < t.length then none else Text.numberOf? 16 t

/-- The groups that a list of parts stands for; only the last one can be an IPv4 address. -/
def groups? : List Text → Option (List Nat)
  | [] => some []
  | [part] => if part.contains '.' then embeddedGroups? part else (group? part).map ([·])
  | part :: rest => do return (← group? part) :: (← groups? rest)

/-- What precedes and what follows the first double colon. -/
def splitDouble? : Text → Option (Text × Text)
  | ':' :: ':' :: rest => some ([], rest)
  | c :: rest => (splitDouble? rest).map fun (before, after) => (c :: before, after)
  | [] => none

/-- The groups of one side of a double colon. -/
def sideGroups? (t : Text) : Option (List Nat) :=
  if t.isEmpty then some [] else groups? (Text.splitAt ':' t)

/-- The eight groups of an IPv6 address; a double colon stands for all groups that are missing. -/
def ipv6Groups? (t : Text) : Option (List Nat) :=
  match splitDouble? t with
  | none => (groups? (Text.splitAt ':' t)).filter (·.length == 8)
  | some (before, after) => do
    if before.contains '.' then none
    else
      let left ← sideGroups? before
      let right ← sideGroups? after
      if left.length + right.length < 8 then
        some (left ++ List.replicate (8 - left.length - right.length) 0 ++ right)
      else none

/-- The number of zeros at the start of a list. -/
def leadingZeros (groups : List Nat) : Nat := (groups.takeWhile (· == 0)).length

/-- Where the first of the longest runs of zeros starts, and its length. -/
def longestZeros : (index : Nat) → List Nat → Nat × Nat
  | _, [] => (0, 0)
  | index, g :: rest =>
    let here := leadingZeros (g :: rest)
    let later := longestZeros (index + 1) rest
    if later.2 ≤ here then (index, here) else later

/-- Groups between colons. -/
def printGroups (groups : List Nat) : Text := Text.joinWith ':' (groups.map (Nat.toDigits 16 ·))

/-- An IPv6 address in its normal form, with its longest run of two or more zeros left out. -/
def printIpv6 (groups : List Nat) : Text :=
  let (start, length) := longestZeros 0 groups
  let written :=
    if length < 2 then printGroups groups
    else printGroups (groups.take start) ++ [':', ':'] ++ printGroups (groups.drop (start + length))
  '[' :: written ++ [']']

/-- The IPv6 address in brackets. -/
def readIpv6 (t : Text) : Except UriFault Text :=
  match (Text.before? [']'] (t.drop 1)).bind ipv6Groups? with
  | some groups => .ok (printIpv6 groups)
  | none => .error .invalidIpv6

/-! ## Hosts -/

/-- Whether a character cannot stand in a host. -/
def isForbidden (c : Char) : Bool :=
  c == '\x00' || c == '\t' || c == '\n' || c == '\r' || c == ' ' || c == '#' || c == '/' || c == ':' ||
    c == '<' || c == '>' || c == '?' || c == '@' || c == '[' || c == '\\' || c == ']' || c == '^' ||
    c == '|'

/-- Whether a character cannot stand in a domain name. -/
def isForbiddenInDomain (c : Char) : Bool :=
  isForbidden c || c.toNat < 0x20 || c == '%' || c == '\x7f'

/-- A label of a domain name in ASCII. -/
def asciiLabel (label : Text) : Text :=
  if label.all (·.toNat < 0x80) then label else "xn--".toList ++ Punycode.encode label

/-- A domain name in ASCII and in small letters. -/
def asciiDomain (domain : Text) : Text :=
  Text.joinWith '.' ((Text.splitAt '.' (domain.map Char.toLower)).map asciiLabel)

/-- The host of a URI with a special scheme. -/
def readDomain (t : Text) : Except UriFault Text :=
  if t.head? = some '[' then readIpv6 t
  else
    match Text.decode? (decode t) with
    | none => .error .invalidDomain
    | some domain =>
      let domain := asciiDomain domain
      if domain.any isForbiddenInDomain then .error .invalidDomain
      else if domain.isEmpty then .error .emptyHost
      else if endsInNumber domain then readIpv4 domain
      else .ok domain

/-- The host of any other URI. -/
def readAnyHost (t : Text) : Except UriFault Text :=
  if t.head? = some '[' then readIpv6 t
  else if t.any isForbidden then .error .invalidHostCharacter
  else .ok (encode controlSet t)

end Uri
end GraphLint
