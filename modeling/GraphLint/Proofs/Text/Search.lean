import GraphLint.Text.Blank
import Mathlib.Data.List.Infix
/-! # Searching a text

What the searches for a part of a text answer, in terms of how the text is put together. -/
namespace GraphLint.Text

theorem after?_eq_some_iff {lead t rest : Text} : after? lead t = some rest ↔ t = lead ++ rest := by
  unfold after?
  rw [Option.ite_none_right_eq_some, Option.some.injEq, List.isPrefixOf_iff_prefix]
  constructor
  · rintro ⟨⟨tail, rfl⟩, rfl⟩
    rw [List.drop_left]
  · rintro rfl
    exact ⟨List.prefix_append .., List.drop_left⟩

theorem before?_eq_some_iff {tail t rest : Text} : before? tail t = some rest ↔ t = rest ++ tail := by
  unfold before?
  rw [Option.ite_none_right_eq_some, Option.some.injEq, List.isSuffixOf_iff_suffix]
  constructor
  · rintro ⟨⟨lead, rfl⟩, rfl⟩
    rw [List.length_append, Nat.add_sub_cancel, List.take_left]
  · rintro rfl
    rw [List.length_append, Nat.add_sub_cancel]
    exact ⟨List.suffix_append .., List.take_left⟩

/-- The search for a part finds it exactly where the text holds it. -/
theorem occurs_iff_isInfix {part t : Text} : occurs part t = true ↔ part <:+: t := by
  induction t with
  | nil => rw [occurs, List.isEmpty_iff, List.infix_nil]
  | cons c t ih =>
    rw [occurs, Bool.or_eq_true, ih, List.isPrefixOf_iff_prefix, List.infix_cons_iff]

/-! ## Around a character that the part does not have -/

section
variable {part t : Text} {c : Char} (hc : c ∉ part)
include hc

/-- What a text goes on with, and what has no `c`, ends before the first `c`. -/
theorem isPrefix_of_append_cons {rest : Text} (h : part <+: t ++ c :: rest) : part <+: t := by
  obtain ⟨tail, htail⟩ := h
  rcases List.append_eq_append_iff.mp htail with ⟨r, rfl, _⟩ | ⟨r, rfl, hr⟩
  · exact List.prefix_append ..
  · cases r with
    | nil => simp
    | cons d r =>
      obtain rfl : c = d := (List.cons.inj hr).1
      exact absurd (List.mem_append_right _ List.mem_cons_self) hc

theorem isInfix_append_cons_iff {rest : Text} :
    part <:+: t ++ c :: rest ↔ part <:+: t ∨ part <:+: rest := by
  constructor
  · intro h
    induction t with
    | nil =>
      rcases List.infix_cons_iff.mp h with h | h
      · exact .inl (isPrefix_of_append_cons hc (t := []) h).isInfix
      · exact .inr h
    | cons d t ih =>
      rcases List.infix_cons_iff.mp h with h | h
      · exact .inl (isPrefix_of_append_cons hc (t := d :: t) h).isInfix
      · exact (ih h).imp_left List.infix_cons
  · rintro (h | h)
    · exact h.trans (List.infix_append' [] t (c :: rest))
    · exact h.trans ((List.suffix_cons c rest).trans (List.suffix_append t _)).isInfix

/-- A part is looked for on the two sides of a character that it does not have. -/
theorem occurs_append_cons (rest : Text) :
    occurs part (t ++ c :: rest) = (occurs part t || occurs part rest) := by
  rw [Bool.eq_iff_iff, Bool.or_eq_true, occurs_iff_isInfix, occurs_iff_isInfix, occurs_iff_isInfix]
  exact isInfix_append_cons_iff hc

end

end GraphLint.Text
