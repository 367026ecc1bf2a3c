import GraphLint.Proofs.Text.Lines
import GraphLint.Proofs.Text.Pattern
/-! # What patterns read

Which end of a pattern is preferred matters for what a search finds, and not for whether it finds
anything.  So where one only asks whether a pattern matches, it is enough to know the texts that it can
read from a place on, and these are put together as the pattern is (`Reads.seq`, `Reads.choice`).

A pattern that is looked for from the start of a line to the end of one, and that reads no line feed,
is found exactly if it reads one of the lines (`Reads.matchesLine_iff`): no such match runs over from a
line to the next one. -/
namespace GraphLint.Text

namespace Place

/-- A line ends at a place. -/
def EndsLine (x : Place) : Prop := ∀ c ∈ x.after.head?, c = '\n'

/-- A line starts where a text does and behind a line feed. -/
theorem startsLine_iff {before after : Text} : (⟨before, after⟩ : Place).StartsLine ↔
    before = [] ∨ ∃ b, before = '\n' :: b := by
  unfold StartsLine
  cases before with
  | nil => simp
  | cons c b => simp

/-- A line ends where a text does and in front of a line feed. -/
theorem endsLine_iff {before after : Text} : (⟨before, after⟩ : Place).EndsLine ↔
    after = [] ∨ ∃ a, after = '\n' :: a := by
  unfold EndsLine
  cases after with
  | nil => simp
  | cons c a => simp

end Place

/-- **A line of a text** is what stands between a place where a line starts and one where a line ends,
without a line feed. -/
theorem mem_lines_iff {line t : Text} : line ∈ lines t ↔ '\n' ∉ line ∧
    ∃ before after, t = before.reverse ++ line ++ after ∧
      (⟨before, line ++ after⟩ : Place).StartsLine ∧
      (⟨line.reverse ++ before, after⟩ : Place).EndsLine := by
  simp only [Place.startsLine_iff, Place.endsLine_iff]
  constructor
  · intro h
    refine ⟨not_mem_of_mem_lines h, ?_⟩
    induction t using linesInduction with
    | single t ht =>
      rw [lines_eq_singleton ht, List.mem_singleton] at h
      exact ⟨[], [], by simp [h], .inl rfl, .inl rfl⟩
    | cons l rest hl ih =>
      rw [lines_append_cons_of_not_mem hl] at h
      rcases List.mem_cons.mp h with rfl | h
      · exact ⟨[], '\n' :: rest, rfl, .inl rfl, .inr ⟨rest, rfl⟩⟩
      · obtain ⟨before, after, rfl, hstart, hend⟩ := ih h
        refine ⟨before ++ '\n' :: l.reverse, after, by simp, ?_, hend⟩
        -- a line further down starts where it starts in the rest, or right behind the first line
        rcases hstart with rfl | ⟨b, rfl⟩
        · exact .inr ⟨l.reverse, rfl⟩
        · exact .inr ⟨b ++ '\n' :: l.reverse, rfl⟩
  · rintro ⟨hline, before, after, rfl, hstart, hend⟩
    have hown : line ∈ lines (line ++ after) := by
      rcases hend with rfl | ⟨a, rfl⟩
      · rw [List.append_nil, lines_eq_singleton hline]
        exact List.mem_singleton_self line
      · rw [lines_append_cons_of_not_mem hline]
        exact List.mem_cons_self
    rcases hstart with rfl | ⟨b, rfl⟩
    · exact hown
    · have htext : ('\n' :: b).reverse ++ line ++ after = b.reverse ++ '\n' :: (line ++ after) := by
        simp
      rw [htext, lines_append_cons]
      exact List.mem_append_right _ hown

namespace Pattern

/-- The texts that a pattern can read: from every place it may end behind those of them that follow,
and nowhere else. -/
def Reads (p : Pattern) (language : Text → Prop) : Prop :=
  ∀ before after e, e ∈ p.ends ⟨before, after⟩ ↔
    ∃ s rest, after = s ++ rest ∧ language s ∧ e = ⟨s.reverse ++ before, rest⟩

section
variable {p q : Pattern} {L M : Text → Prop} {kind : Char → Bool} {t : Text}

theorem Reads.congr (hp : p.Reads L) (h : ∀ s, L s ↔ M s) : p.Reads M := by
  intro before after e
  simp only [hp before after e, h]

theorem reads_empty : empty.Reads (· = []) := by
  intro before after e
  constructor
  · intro h
    exact ⟨[], after, rfl, rfl, List.mem_singleton.mp h⟩
  · rintro ⟨s, rest, rfl, rfl, rfl⟩
    exact List.mem_singleton_self _

theorem reads_char (kind : Char → Bool) :
    (char kind).Reads fun s => ∃ c, kind c = true ∧ s = [c] := by
  intro before after e
  cases after with
  | nil =>
    refine ⟨nofun, ?_⟩
    rintro ⟨s, rest, h, ⟨c, -, rfl⟩, -⟩
    cases h
  | cons c after =>
    rw [ends_char_cons, List.mem_ite_nil_right, List.mem_singleton]
    constructor
    · rintro ⟨hc, rfl⟩
      exact ⟨[c], after, rfl, ⟨c, hc, rfl⟩, rfl⟩
    · rintro ⟨s, rest, h, ⟨d, hd, rfl⟩, rfl⟩
      obtain ⟨rfl, rfl⟩ := List.cons.inj h
      exact ⟨hd, rfl⟩

theorem reads_only (c : Char) : (only c).Reads (· = [c]) :=
  (reads_char (· == c)).congr fun s => by simp

/-- **What a sequence reads** is read by its halves, one behind the other. -/
theorem Reads.seq (hp : p.Reads L) (hq : q.Reads M) :
    (p.seq q).Reads fun s => ∃ u v, s = u ++ v ∧ L u ∧ M v := by
  intro before after e
  rw [ends_seq, List.mem_flatMap]
  constructor
  · rintro ⟨m, hm, he⟩
    obtain ⟨u, rest, rfl, hu, rfl⟩ := (hp before after m).mp hm
    obtain ⟨v, rest, rfl, hv, rfl⟩ := (hq _ _ e).mp he
    refine ⟨u ++ v, rest, (List.append_assoc u v rest).symm, ⟨u, v, rfl, hu, hv⟩, ?_⟩
    rw [List.reverse_append, List.append_assoc]
  · rintro ⟨s, rest, rfl, ⟨u, v, rfl, hu, hv⟩, rfl⟩
    refine ⟨⟨u.reverse ++ before, v ++ rest⟩, ?_, ?_⟩
    · exact (hp _ _ _).mpr ⟨u, v ++ rest, List.append_assoc u v rest, hu, rfl⟩
    · refine (hq _ _ _).mpr ⟨v, rest, rfl, hv, ?_⟩
      rw [List.reverse_append, List.append_assoc]

/-- What a choice reads is read by either side. -/
theorem Reads.choice (hp : p.Reads L) (hq : q.Reads M) : (p.choice q).Reads fun s => L s ∨ M s := by
  intro before after e
  have hends : (p.choice q).ends ⟨before, after⟩ = p.ends ⟨before, after⟩ ++ q.ends ⟨before, after⟩ :=
    rfl
  rw [hends, List.mem_append, hp before after e, hq before after e]
  constructor
  · rintro (⟨s, rest, h, hs, he⟩ | ⟨s, rest, h, hs, he⟩)
    · exact ⟨s, rest, h, .inl hs, he⟩
    · exact ⟨s, rest, h, .inr hs, he⟩
  · rintro ⟨s, rest, h, hs | hs, he⟩
    · exact .inl ⟨s, rest, h, hs, he⟩
    · exact .inr ⟨s, rest, h, hs, he⟩

theorem Reads.optional (hp : p.Reads L) : p.optional.Reads fun s => L s ∨ s = [] :=
  hp.choice reads_empty

theorem reads_word (w : Text) : (word w).Reads (· = w) := by
  induction w with
  | nil => exact reads_empty
  | cons c w ih =>
    refine ((reads_only c).seq ih).congr fun s => ?_
    constructor
    · rintro ⟨u, v, rfl, rfl, rfl⟩
      rfl
    · rintro rfl
      exact ⟨[c], w, rfl, rfl, rfl⟩

/-- **A repetition reads any number of characters of its kind.** -/
theorem reads_manyChar (kind : Char → Bool) :
    (char kind).many.Reads fun s => ∀ c ∈ s, kind c = true := by
  intro before after e
  induction after generalizing before with
  | nil =>
    rw [ends_manyChar_nil, List.mem_singleton]
    constructor
    · rintro rfl
      exact ⟨[], [], rfl, nofun, rfl⟩
    · rintro ⟨s, rest, h, -, rfl⟩
      obtain ⟨rfl, rfl⟩ := List.append_eq_nil_iff.mp h.symm
      rfl
  | cons c after ih =>
    rw [ends_manyChar_cons, List.mem_append, List.mem_ite_nil_right, List.mem_singleton, ih]
    constructor
    · rintro (⟨hc, s, rest, rfl, hs, rfl⟩ | rfl)
      · exact ⟨c :: s, rest, rfl, List.forall_mem_cons.mpr ⟨hc, hs⟩, by simp⟩
      · exact ⟨[], c :: after, rfl, nofun, rfl⟩
    · rintro ⟨s, rest, h, hs, rfl⟩
      cases s with
      | nil => exact .inr (by rw [h]; rfl)
      | cons d s =>
        obtain ⟨rfl, rfl⟩ := List.cons.inj h
        obtain ⟨hc, hs⟩ := List.forall_mem_cons.mp hs
        exact .inl ⟨hc, s, rest, rfl, hs, by simp⟩

/-! ## Whole lines -/

/-- A pattern matches somewhere in a text from the start of a line to the end of one: what a search
for `^p$` comes down to where `^` and `$` stand for the ends of lines. -/
def MatchesLine (p : Pattern) (t : Text) : Prop :=
  ∃ x : Place, x.before.reverse ++ x.after = t ∧ x.StartsLine ∧ ∃ e ∈ p.ends x, e.EndsLine

/-- **A match from the start of a line to the end of one is a line**, if no line feed is read. -/
theorem Reads.matchesLine_iff (hp : p.Reads L) (hL : ∀ s, L s → '\n' ∉ s) :
    p.MatchesLine t ↔ ∃ line ∈ lines t, L line := by
  constructor
  · rintro ⟨⟨before, after⟩, rfl, hstart, e, he, hend⟩
    obtain ⟨s, rest, rfl, hs, rfl⟩ := (hp _ _ e).mp he
    refine ⟨s, mem_lines_iff.mpr ⟨hL s hs, before, rest, ?_, hstart, hend⟩, hs⟩
    exact (List.append_assoc _ _ _).symm
  · rintro ⟨line, hline, hs⟩
    obtain ⟨-, before, after, rfl, hstart, hend⟩ := mem_lines_iff.mp hline
    refine ⟨⟨before, line ++ after⟩, (List.append_assoc _ _ _).symm, hstart, _, ?_, hend⟩
    exact (hp _ _ _).mpr ⟨line, after, rfl, hs, rfl⟩

end
end Pattern
end GraphLint.Text
