import GraphLint.Expression.Scanner
import GraphLint.Proofs.Expression.Literals
/-! # Calling a scanner

A scanner keeps two flags where the scan keeps the literal that is open.  A flag is only set while
the other one is not, so no scanner that a client can come by has both of them set
(`Reachable.isExclusive`).  Of the other states each stands for what is open and for nothing else,
and a character does to the flags what it does to the scan (`Flags.IsExclusive.meet_spec`).  So the
calls of a client yield what the scan yields (`drain_spec`).  For calls one after another no such
condition is needed: what a scanner does with a text is settled by its flags before the text
(`drain_append`). -/
namespace GraphLint.Expression
variable {flags : Flags} {s after : Scanner} {t : Text} {c : Char}

namespace Flags

/-- At most one of the two flags is set. -/
def IsExclusive (flags : Flags) : Prop := ¬ (flags.inSingle = true ∧ flags.inDouble = true)

instance (flags : Flags) : Decidable flags.IsExclusive := inferInstanceAs (Decidable (¬ _))

theorem IsExclusive.cases (h : flags.IsExclusive) :
    flags = {} ∨ flags = { inSingle := true } ∨ flags = { inDouble := true } := by
  obtain ⟨inSingle, inDouble⟩ := flags
  cases inSingle with
  | false =>
    cases inDouble with
    | false => exact .inl rfl
    | true => exact .inr (.inr rfl)
  | true =>
    cases inDouble with
    | false => exact .inr (.inl rfl)
    | true => exact absurd ⟨rfl, rfl⟩ h

/-! ## One character -/

/-- A character that is no quote leaves the flags as they are. -/
theorem meet_of_ne (hdouble : c ≠ '"') (hsingle : c ≠ '\'') (flags : Flags) :
    flags.meet c = (!(flags.inSingle || flags.inDouble), flags) := by
  rw [meet, if_neg fun h => hdouble h.1, if_neg fun h => hsingle h.1]

/-- **A character does to the flags what it does to the scan.** -/
theorem IsExclusive.meet_spec (h : flags.IsExclusive) (c : Char) :
    (flags.meet c).2.IsExclusive ∧ (flags.meet c).1 = yields flags.open? c ∧
      (flags.meet c).2.open? = nextOpen flags.open? c := by
  by_cases hdouble : c = '"'
  · subst hdouble
    rcases h.cases with rfl | rfl | rfl <;> decide
  · by_cases hsingle : c = '\''
    · subst hsingle
      rcases h.cases with rfl | rfl | rfl <;> decide
    · rw [meet_of_ne hdouble hsingle]
      refine ⟨h, ?_, ?_⟩
      · rcases h.cases with rfl | rfl | rfl <;> simp [open?, yields, hdouble, hsingle]
      · rcases h.cases with rfl | rfl | rfl <;>
          simp [open?, nextOpen, QuoteKind.mark, hdouble, hsingle]

/-- Nothing is open right after a character that is yielded. -/
theorem open?_of_meet (h : (flags.meet c).1 = true) : (flags.meet c).2.open? = none := by
  unfold meet at h ⊢
  split at h
  · cases h
  · split at h
    · cases h
    · rename_i hdouble hsingle
      rw [if_neg hdouble, if_neg hsingle]
      simp only [Bool.not_eq_true', Bool.or_eq_false_iff] at h
      simp [open?, h.1, h.2]

end Flags

namespace Scanner

/-! ## One call -/

theorem next_nil (flags : Flags) : next ⟨[], flags⟩ = (none, ⟨[], flags⟩) := rfl

theorem next_cons_of_yielded (h : (flags.meet c).1 = true) (t : Text) :
    next ⟨c :: t, flags⟩ = (some c, ⟨t, (flags.meet c).2⟩) := by
  rw [next, nextFrom]
  split
  · rename_i after hmeet
    rw [hmeet]
  · rename_i after hmeet
    rw [hmeet] at h
    cases h

theorem next_cons_of_swallowed (h : (flags.meet c).1 = false) (t : Text) :
    next ⟨c :: t, flags⟩ = next ⟨t, (flags.meet c).2⟩ := by
  rw [next, nextFrom]
  split
  · rename_i after hmeet
    rw [hmeet] at h
    cases h
  · rename_i after hmeet
    rw [hmeet]
    rfl

/-- **No literal is open right after a call that has yielded a character.** -/
theorem open?_of_next (h : s.next = (some c, after)) : after.flags.open? = none := by
  obtain ⟨t, flags⟩ := s
  induction t generalizing flags with
  | nil => cases h
  | cons d t ih =>
    cases hmeet : (flags.meet d).1 with
    | true =>
      rw [next_cons_of_yielded hmeet] at h
      cases h
      exact Flags.open?_of_meet hmeet
    | false =>
      rw [next_cons_of_swallowed hmeet] at h
      exact ih _ h

/-- A call passes over a literal and what is in it, quotes of the other kind too. -/
example : (ofText "\"it's\" + x".toList).next = (some ' ', ofText "+ x".toList) := by decide

/-! ## All calls -/

theorem drain_of_next_eq_none (h : s.next = (none, after)) : s.drain = ([], after) := by
  rw [drain]
  split
  · rename_i last heq
    cases h.symm.trans heq
    rfl
  · rename_i d last heq
    cases h.symm.trans heq

theorem drain_of_next_eq_some (h : s.next = (some c, after)) :
    s.drain = (c :: after.drain.1, after.drain.2) := by
  rw [drain]
  split
  · rename_i last heq
    cases h.symm.trans heq
  · rename_i d last heq
    cases h.symm.trans heq
    rfl

theorem drain_nil (flags : Flags) : drain ⟨[], flags⟩ = ([], ⟨[], flags⟩) :=
  drain_of_next_eq_none (next_nil flags)

theorem drain_cons_of_yielded (h : (flags.meet c).1 = true) (t : Text) :
    drain ⟨c :: t, flags⟩ =
      (c :: (drain ⟨t, (flags.meet c).2⟩).1, (drain ⟨t, (flags.meet c).2⟩).2) :=
  drain_of_next_eq_some (next_cons_of_yielded h t)

theorem drain_cons_of_swallowed (h : (flags.meet c).1 = false) (t : Text) :
    drain ⟨c :: t, flags⟩ = drain ⟨t, (flags.meet c).2⟩ := by
  have hnext := next_cons_of_swallowed h t
  cases hcall : next ⟨t, (flags.meet c).2⟩ with
  | mk yielded after =>
    rw [hcall] at hnext
    cases yielded with
    | none => rw [drain_of_next_eq_none hnext, drain_of_next_eq_none hcall]
    | some d => rw [drain_of_next_eq_some hnext, drain_of_next_eq_some hcall]

/-- **A text behind another one is scanned from the flags that the first has left.** -/
theorem drain_append (flags : Flags) (t u : Text) :
    drain ⟨t ++ u, flags⟩ =
      ((drain ⟨t, flags⟩).1 ++ (drain ⟨u, (drain ⟨t, flags⟩).2.flags⟩).1,
        (drain ⟨u, (drain ⟨t, flags⟩).2.flags⟩).2) := by
  induction t generalizing flags with
  | nil => rw [drain_nil, List.nil_append, List.nil_append]
  | cons c t ih =>
    rw [List.cons_append]
    cases hmeet : (flags.meet c).1 with
    | true => rw [drain_cons_of_yielded hmeet, drain_cons_of_yielded hmeet, ih, List.cons_append]
    | false => rw [drain_cons_of_swallowed hmeet, drain_cons_of_swallowed hmeet, ih]

/-- **The calls of a client run the scan**: they read the whole text, yield what the scan yields,
and leave open what it leaves open. -/
theorem drain_spec (h : flags.IsExclusive) (t : Text) :
    (drain ⟨t, flags⟩).2.rest = [] ∧ (drain ⟨t, flags⟩).1 = unquotedFrom flags.open? t ∧
      (drain ⟨t, flags⟩).2.flags.open? = openAfter flags.open? t := by
  induction t generalizing flags with
  | nil =>
    rw [drain_nil]
    exact ⟨rfl, rfl, rfl⟩
  | cons c t ih =>
    obtain ⟨hafter, hyields, hopen⟩ := h.meet_spec c
    obtain ⟨hrest, hyielded, hleft⟩ := ih hafter
    rw [hopen] at hyielded hleft
    rw [unquotedFrom, ← hyields, ← hyielded, openAfter, List.foldl_cons, ← openAfter, ← hleft]
    cases hmeet : (flags.meet c).1 with
    | true =>
      rw [drain_cons_of_yielded hmeet]
      exact ⟨hrest, rfl, rfl⟩
    | false =>
      rw [drain_cons_of_swallowed hmeet]
      exact ⟨hrest, rfl, rfl⟩

/-! ## The scanners of a text -/

/-- The scanners that a client comes by on a text, and those that a call goes through: each has read
one more character. -/
inductive Reachable (t : Text) : Scanner → Prop
  | start : Reachable t (ofText t)
  | read {c : Char} {rest : Text} {flags : Flags} (h : Reachable t ⟨c :: rest, flags⟩) :
      Reachable t ⟨rest, (flags.meet c).2⟩

/-- **A scanner never has both of its flags set.** -/
theorem Reachable.isExclusive (h : Reachable t s) : s.flags.IsExclusive := by
  induction h with
  | start => exact nofun
  | @read c rest flags _ ih => exact (ih.meet_spec c).1

theorem Reachable.next (h : Reachable t s) : Reachable t s.next.2 := by
  obtain ⟨rest, flags⟩ := s
  induction rest generalizing flags with
  | nil => exact h
  | cons c rest ih =>
    cases hmeet : (flags.meet c).1 with
    | true =>
      rw [next_cons_of_yielded hmeet]
      exact h.read
    | false =>
      rw [next_cons_of_swallowed hmeet]
      exact ih _ h.read

end Scanner
end GraphLint.Expression
