import GraphLint.Text.Utf8
import Mathlib.Data.List.Basic
/-! # Texts survive their encoding

The octets of a character are decoded to that character whatever follows them
(`decode?_encodeChar_append`), one case for each of the four lengths that an encoding has.  So a
text is decoded from its octets, and two texts with the same octets are the same. -/
namespace GraphLint.Text

theorem charFrom?_eq {least n : Nat} {c : Char} (hn : n = c.toNat) (h : least ≤ c.toNat) :
    charFrom? least n = some c := by
  have hvalid : c.toNat.isValidChar := c.valid
  rw [charFrom?, hn, dif_pos hvalid, if_pos h]
  rfl

theorem toNat_ofNat_octet {n : Nat} (h : n < 256) : (UInt8.ofNat n).toNat = n := by
  rw [UInt8.toNat_ofNat']
  exact Nat.mod_eq_of_lt h

theorem continuation?_ofNat (n : Nat) :
    continuation? (UInt8.ofNat (0x80 + n % 0x40)) = some (n % 0x40) := by
  have hlt : n % 0x40 < 0x40 := Nat.mod_lt _ (by decide)
  have hvalue : (0x80 + n % 0x40) % 0x40 = n % 0x40 := by omega
  rw [continuation?, toNat_ofNat_octet (by omega), if_pos (by omega), hvalue]

theorem toNat_lt (c : Char) : c.toNat < 0x110000 := by
  rcases c.valid with h | ⟨-, h⟩
  · exact Nat.lt_trans h (by decide)
  · exact h

/-- **The octets of a character are decoded to it**, whatever follows. -/
theorem decode?_encodeChar_append (c : Char) (rest : List UInt8) :
    decode? (encodeChar c ++ rest) = (decode? rest).map (c :: ·) := by
  have hmax := toNat_lt c
  -- the bounds on the character decide what its first octet is taken for
  simp only [encodeChar]
  split
  · rename_i h
    have hlead := toNat_ofNat_octet (n := c.toNat) (by omega)
    rw [List.singleton_append, decode?.eq_def]
    simp only [hlead]
    rw [if_pos h, charFrom?_eq rfl (Nat.zero_le _)]
    cases decode? rest <;> rfl
  · split
    · rename_i h₁ h₂
      have hlead := toNat_ofNat_octet (n := 0xC0 + c.toNat / 0x40) (by omega)
      rw [List.cons_append, List.singleton_append, decode?]
      simp only [hlead, continuation?_ofNat]
      rw [if_neg (by omega)]
      simp only [Option.bind_eq_bind, Option.bind_some]
      rw [if_pos (by omega), charFrom?_eq (c := c) (by omega) (by omega)]
      cases decode? rest <;> rfl
    · split
      · rename_i h₁ h₂ h₃
        have hlead := toNat_ofNat_octet (n := 0xE0 + c.toNat / 0x1000) (by omega)
        rw [List.cons_append, List.cons_append, List.singleton_append, decode?]
        simp only [hlead, continuation?_ofNat]
        rw [if_neg (by omega)]
        simp only [Option.bind_eq_bind, Option.bind_some]
        rw [if_neg (by omega), if_pos (by omega), charFrom?_eq (c := c) (by omega) (by omega)]
        cases decode? rest <;> rfl
      · rename_i h₁ h₂ h₃
        have hlead := toNat_ofNat_octet (n := 0xF0 + c.toNat / 0x40000) (by omega)
        rw [List.cons_append, List.cons_append, List.cons_append, List.singleton_append, decode?]
        simp only [hlead, continuation?_ofNat]
        rw [if_neg (by omega)]
        simp only [Option.bind_eq_bind, Option.bind_some]
        rw [if_neg (by omega), if_neg (by omega), if_pos (by omega),
          charFrom?_eq (c := c) (by omega) (by omega)]
        cases decode? rest <;> rfl

/-- **A text is decoded from its octets.** -/
theorem decode?_encode (t : Text) : decode? (encode t) = some t := by
  induction t with
  | nil => rfl
  | cons c t ih =>
    rw [encode, List.flatMap_cons, decode?_encodeChar_append]
    rw [encode] at ih
    rw [ih]
    rfl

theorem encode_injective {s t : Text} (h : encode s = encode t) : s = t := by
  rw [← Option.some.injEq, ← decode?_encode s, ← decode?_encode t, h]

end GraphLint.Text
