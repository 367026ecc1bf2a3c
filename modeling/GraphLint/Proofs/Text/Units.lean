import GraphLint.Text.Blank
import Mathlib.Data.List.Basic
/-! # UTF-16

Editors count a line in 16-bit units: a character of the basic plane is one unit, any other one is a
pair of surrogates.  So a text has at least as many units as characters, and as many exactly if all of
its characters are basic (`length_units_eq_iff`).  Hence numbers of characters cut a part out of the
units of a text just when all characters up to the end of the part are basic (`cut_units_iff`). -/
namespace GraphLint.Text

/-- The units of a character: itself, or beyond the basic plane two surrogates. -/
def unitsOf (c : Char) : List UInt16 :=
  if c.toNat < 0x10000 then [.ofNat c.toNat]
  else [.ofNat (0xD800 + (c.toNat - 0x10000) / 0x400), .ofNat (0xDC00 + (c.toNat - 0x10000) % 0x400)]

/-- The units of a text. -/
def units (t : Text) : List UInt16 := t.flatMap unitsOf

/-- All characters of a text are in the basic plane. -/
def IsBasic (t : Text) : Prop := ∀ c ∈ t, c.toNat < 0x10000

instance : DecidablePred IsBasic := fun t => inferInstanceAs (Decidable (∀ c ∈ t, c.toNat < 0x10000))

theorem isBasic_append {s t : Text} : IsBasic (s ++ t) ↔ IsBasic s ∧ IsBasic t :=
  List.forall_mem_append

theorem units_append (s t : Text) : units (s ++ t) = units s ++ units t := List.flatMap_append

theorem length_units_cons (c : Char) (t : Text) :
    (units (c :: t)).length = (if c.toNat < 0x10000 then 1 else 2) + (units t).length := by
  rw [units, List.flatMap_cons, List.length_append, unitsOf]
  split <;> rfl

theorem length_le_length_units (t : Text) : t.length ≤ (units t).length := by
  induction t with
  | nil => exact Nat.le_refl 0
  | cons c t ih =>
    rw [length_units_cons, List.length_cons]
    split <;> omega

/-- **A text has as many units as characters exactly if it is basic.** -/
theorem length_units_eq_iff {t : Text} : (units t).length = t.length ↔ IsBasic t := by
  induction t with
  | nil => exact iff_of_true rfl nofun
  | cons c t ih =>
    have hle := length_le_length_units t
    rw [length_units_cons, List.length_cons, IsBasic, List.forall_mem_cons]
    split
    · rename_i hc
      rw [Nat.add_comm, Nat.add_right_cancel_iff, ih, IsBasic, and_iff_right hc]
    · rename_i hc
      exact iff_of_false (by omega) fun h => hc h.1

/-- **Numbers of characters cut a part out of the units of a text** exactly if the part and what
stands before it are basic. -/
theorem cut_units_iff (before part rest : Text) :
    ((units (before ++ part ++ rest)).take before.length = units before ∧
        ((units (before ++ part ++ rest)).drop before.length).take part.length = units part) ↔
      IsBasic (before ++ part) := by
  rw [isBasic_append, ← length_units_eq_iff, ← length_units_eq_iff, units_append, units_append,
    List.append_assoc]
  constructor
  · -- what is cut out is as long as the numbers say, since there are units enough
    rintro ⟨hbefore, hpart⟩
    have hb := congrArg List.length hbefore
    have hp := congrArg List.length hpart
    have hble := length_le_length_units before
    have hple := length_le_length_units part
    simp only [List.length_take, List.length_drop, List.length_append] at hb hp
    omega
  · rintro ⟨hb, hp⟩
    rw [← hb, ← hp, List.take_left, List.drop_left, List.take_left]
    exact ⟨rfl, rfl⟩

end GraphLint.Text
