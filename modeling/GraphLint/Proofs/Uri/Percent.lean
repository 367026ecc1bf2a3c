import GraphLint.Proofs.Text.Utf8
import GraphLint.Uri.Path
import Mathlib.Data.List.Basic
/-! # Texts survive percent-encoding

Whatever set of characters is encoded, a text can be read back from what is written for it, provided
that the percent sign is in the set (`decode_encode`).  A segment that is read as a dot segment
stands for one dot or two, however its dots are written (`decode_of_isSingleDot`,
`decode_of_isDoubleDot`), so no other text is written as one. -/
namespace GraphLint.Uri

/-! ## Octets -/

theorem hexValue?_hexDigit {n : Nat} (h : n < 16) : Text.hexValue? (hexDigit n) = some n := by
  have hall : ∀ n < 16, Text.hexValue? (hexDigit n) = some n := by decide
  exact hall n h

theorem decode_encodeOctet_append (o : UInt8) (rest : Text) :
    decode (encodeOctet o ++ rest) = o :: decode rest := by
  have hlt := o.toNat_lt
  have hvalue : 16 * (o.toNat / 16) + o.toNat % 16 = o.toNat := Nat.div_add_mod o.toNat 16
  rw [encodeOctet, List.cons_append, List.cons_append, List.singleton_append, decode,
    hexValue?_hexDigit (by omega), hexValue?_hexDigit (by omega)]
  simp only [hvalue, UInt8.ofNat_toNat]

theorem decode_flatMap_encodeOctet_append (os : List UInt8) (rest : Text) :
    decode (os.flatMap encodeOctet ++ rest) = os ++ decode rest := by
  induction os with
  | nil => rfl
  | cons o os ih =>
    rw [List.flatMap_cons, List.append_assoc, decode_encodeOctet_append, ih, List.cons_append]

/-! ## Characters and texts -/

/-- Only a percent sign is read together with what follows it. -/
theorem decode_cons_of_ne {c : Char} (h : c ≠ '%') (rest : Text) :
    decode (c :: rest) = Text.encodeChar c ++ decode rest := by
  rw [decode]
  rintro high low tail rfl
  exact absurd rfl h

section
variable {set : EncodeSet}

theorem decode_encodeChar_append (hset : set '%' = true) (c : Char) (rest : Text) :
    decode (encodeChar set c ++ rest) = Text.encodeChar c ++ decode rest := by
  unfold encodeChar
  split
  · exact decode_flatMap_encodeOctet_append _ rest
  · rename_i hc
    exact decode_cons_of_ne (by rintro rfl; exact hc hset) rest

/-- **A text is read back from what is written for it.** -/
theorem decode_encode (hset : set '%' = true) (t : Text) :
    decode (encode set t) = Text.encode t := by
  induction t with
  | nil => rw [encode, List.flatMap_nil, decode, Text.encode, List.flatMap_nil]
  | cons c t ih =>
    rw [encode, List.flatMap_cons, decode_encodeChar_append hset, ← encode, ih, Text.encode,
      Text.encode, List.flatMap_cons]

end

/-! ## Dot segments -/

/-- A character is its own small letter, or it is a capital letter and 32 below it. -/
theorem toLower_cases (x : Char) :
    x.toLower = x ∨ 65 ≤ x.toNat ∧ x.toNat ≤ 90 ∧ x.toLower.toNat = x.toNat + 32 := by
  unfold Char.toLower
  split
  · rename_i h
    have hrange : 65 ≤ x.toNat ∧ x.toNat ≤ 90 := by
      simpa [UInt32.le_iff_toNat_le] using h
    refine .inr ⟨hrange.1, hrange.2, ?_⟩
    change (x.val + 32).toNat = x.toNat + 32
    rw [UInt32.toNat_add]
    have hlt : x.val.toNat + 32 < 2 ^ 32 := Nat.lt_of_le_of_lt (Nat.add_le_add_right hrange.2 32)
      (by decide)
    exact Nat.mod_eq_of_lt hlt
  · exact .inl rfl

/-- Only small letters are the small letters of something else. -/
theorem eq_of_toLower_eq {x c : Char} (h : x.toLower = c) (hc : c.toNat < 97) : x = c := by
  rcases toLower_cases x with hx | ⟨hlow, -, hx⟩
  · rw [← h, hx]
  · rw [h] at hx
    omega

theorem hexValue?_of_toLower_eq_e {x : Char} (h : x.toLower = 'e') :
    Text.hexValue? x = some 14 := by
  rcases toLower_cases x with hx | ⟨-, -, hx⟩
  · rw [← hx, h]
    rfl
  · have hcapital : x.toNat = 'E'.toNat := by
      have hsum : 'E'.toNat + 32 = x.toNat + 32 := by rw [← hx, h]; rfl
      exact (Nat.add_right_cancel hsum).symm
    rw [Char.toNat_inj.mp hcapital]
    rfl

/-- What starts like a dot, up to the case of the letters, is read as one. -/
theorem decode_of_map_toLower_eq {s r : Text}
    (h : s.map Char.toLower = '.' :: r ∨ s.map Char.toLower = "%2e".toList ++ r) :
    ∃ rest, rest.map Char.toLower = r ∧ decode s = 0x2E :: decode rest := by
  rcases h with h | h
  · obtain ⟨c, rest, rfl, hc, hrest⟩ := List.map_eq_cons_iff.mp h
    obtain rfl := eq_of_toLower_eq hc (by decide)
    exact ⟨rest, hrest, decode_cons_of_ne (by decide) rest⟩
  · have hchars : "%2e".toList ++ r = '%' :: '2' :: 'e' :: r := rfl
    rw [hchars] at h
    obtain ⟨a, s, rfl, ha, h⟩ := List.map_eq_cons_iff.mp h
    obtain ⟨b, s, rfl, hb, h⟩ := List.map_eq_cons_iff.mp h
    obtain ⟨c, rest, rfl, hc, hrest⟩ := List.map_eq_cons_iff.mp h
    obtain rfl := eq_of_toLower_eq ha (by decide)
    obtain rfl := eq_of_toLower_eq hb (by decide)
    refine ⟨rest, hrest, ?_⟩
    rw [decode, hexValue?_of_toLower_eq_e hc]
    rfl

theorem decode_of_isSingleDot {s : Text} (h : isSingleDot s = true) :
    decode s = Text.encode ['.'] := by
  have hlower : s.map Char.toLower = '.' :: [] ∨ s.map Char.toLower = "%2e".toList ++ [] := by
    rw [isSingleDot, Bool.or_eq_true, beq_iff_eq, beq_iff_eq] at h
    rcases h with rfl | h
    · exact .inl rfl
    · exact .inr h
  obtain ⟨rest, hrest, hs⟩ := decode_of_map_toLower_eq hlower
  obtain rfl := List.map_eq_nil_iff.mp hrest
  rw [hs, decode]
  rfl

theorem decode_of_isDoubleDot {s : Text} (h : isDoubleDot s = true) :
    decode s = Text.encode ['.', '.'] := by
  have hlower : ∃ r, (s.map Char.toLower = '.' :: r ∨ s.map Char.toLower = "%2e".toList ++ r) ∧
      (r = '.' :: [] ∨ r = "%2e".toList ++ []) := by
    simp only [isDoubleDot, Bool.or_eq_true, beq_iff_eq] at h
    rcases h with ((h | h) | h) | h
    · exact ⟨['.'], .inl h, .inl rfl⟩
    · exact ⟨"%2e".toList, .inl h, .inr rfl⟩
    · exact ⟨['.'], .inr h, .inl rfl⟩
    · exact ⟨"%2e".toList, .inr h, .inr rfl⟩
  obtain ⟨r, hfirst, hsecond⟩ := hlower
  obtain ⟨s', hs', hs⟩ := decode_of_map_toLower_eq hfirst
  rw [← hs'] at hsecond
  obtain ⟨rest, hrest, htail⟩ := decode_of_map_toLower_eq hsecond
  obtain rfl := List.map_eq_nil_iff.mp hrest
  rw [hs, htail, decode]
  rfl

end GraphLint.Uri
