import GraphLint.Text.Blank
/-! # Texts as octets

UTF-8 in both directions.  Decoding refuses everything that is not the encoding of a text: stray and
missing continuation octets, encodings that are longer than they need be, and numbers that no
character has. -/
namespace GraphLint.Text

/-- The octets of a character. -/
def encodeChar (c : Char) : List UInt8 :=
  let n := c.toNat
  if n < 0x80 then [UInt8.ofNat n]
  else if n < 0x800 then [UInt8.ofNat (0xC0 + n / 0x40), UInt8.ofNat (0x80 + n % 0x40)]
  else if n < 0x10000 then
    [UInt8.ofNat (0xE0 + n / 0x1000), UInt8.ofNat (0x80 + n / 0x40 % 0x40),
      UInt8.ofNat (0x80 + n % 0x40)]
  else
    [UInt8.ofNat (0xF0 + n / 0x40000), UInt8.ofNat (0x80 + n / 0x1000 % 0x40),
      UInt8.ofNat (0x80 + n / 0x40 % 0x40), UInt8.ofNat (0x80 + n % 0x40)]

/-- The octets of a text. -/
def encode (t : Text) : List UInt8 := t.flatMap encodeChar

/-- The value that a continuation octet adds. -/
def continuation? (o : UInt8) : Option Nat :=
  if o.toNat / 0x40 = 2 then some (o.toNat % 0x40) else none

/-- The character with a number, if there is one and it is at least `least`. -/
def charFrom? (least n : Nat) : Option Char :=
  if h : n.isValidChar then if least ≤ n then some (Char.ofNatAux n h) else none else none

/-- The text that octets encode. -/
def decode? : List UInt8 → Option Text
  | [] => some []
  | a :: rest =>
    let n := a.toNat
    if n < 0x80 then do
      let c ← charFrom? 0 n
      return c :: (← decode? rest)
    else
      match rest with
      | [] => none
      | b :: rest => do
        let x ← continuation? b
        if n / 0x20 = 6 then
          let c ← charFrom? 0x80 (n % 0x20 * 0x40 + x)
          return c :: (← decode? rest)
        else
          match rest with
          | [] => none
          | c :: rest => do
            let y ← continuation? c
            if n / 0x10 = 0xE then
              let c ← charFrom? 0x800 ((n % 0x10 * 0x40 + x) * 0x40 + y)
              return c :: (← decode? rest)
            else
              match rest with
              | [] => none
              | d :: rest => do
                let z ← continuation? d
                if n / 8 = 0x1E then
                  let c ← charFrom? 0x10000 (((n % 8 * 0x40 + x) * 0x40 + y) * 0x40 + z)
                  return c :: (← decode? rest)
                else none

end GraphLint.Text
