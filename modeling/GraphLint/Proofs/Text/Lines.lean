import GraphLint.Text.Lines
import Mathlib.Data.List.Basic
/-! # Lines and offsets

A text without a line feed is one line, and a line feed between two texts keeps their lines apart
(`lines_append_cons`); `linesInduction` is induction along these two equations.  The characters of
a text are counted through, line feeds included: `lineStart` is the number of characters before a
line, and every offset of a text is a column of exactly one line (`exists_line_of_le`). -/
namespace GraphLint.Text

theorem lines_eq_singleton {t : Text} (h : '\n' ∉ t) : lines t = [t] := by
  induction t with
  | nil => rfl
  | cons c t ih =>
    obtain ⟨hc, ht⟩ := not_or.mp (mt List.mem_cons.mpr h)
    have := ih ht
    unfold lines at this ⊢
    rw [splitAt, if_neg (Ne.symm hc), this]

/-- **A line feed keeps the lines before it and the lines after it apart.** -/
theorem lines_append_cons (s t : Text) : lines (s ++ '\n' :: t) = lines s ++ lines t := by
  unfold lines
  induction s with
  | nil => simp [splitAt]
  | cons c s ih =>
    rw [List.cons_append, splitAt, ih]
    by_cases hc : c = '\n'
    · simp [splitAt, hc]
    · obtain ⟨l, ls, hs⟩ := List.exists_cons_of_ne_nil (splitAt_ne_nil '\n' s)
      simp [splitAt, hc, hs]

theorem lines_append_cons_of_not_mem {s : Text} (h : '\n' ∉ s) (t : Text) :
    lines (s ++ '\n' :: t) = s :: lines t := by
  rw [lines_append_cons, lines_eq_singleton h, List.singleton_append]

/-- **Induction along the lines of a text.** -/
theorem linesInduction {motive : Text → Prop} (single : ∀ line, '\n' ∉ line → motive line)
    (cons : ∀ line rest, '\n' ∉ line → motive rest → motive (line ++ '\n' :: rest))
    (t : Text) : motive t := by
  induction hn : t.length using Nat.strongRecOn generalizing t with
  | ind n ih =>
    by_cases h : '\n' ∈ t
    · obtain ⟨line, rest, rfl, hline⟩ := List.eq_append_cons_of_mem h
      rw [List.length_append, List.length_cons] at hn
      exact cons line rest hline (ih rest.length (by omega) rest rfl)
    · exact single t h

theorem not_mem_of_mem_lines {t line : Text} (h : line ∈ lines t) : '\n' ∉ line := by
  induction t using linesInduction with
  | single t ht =>
    rw [lines_eq_singleton ht, List.mem_singleton] at h
    exact h ▸ ht
  | cons l rest hl ih =>
    rw [lines_append_cons_of_not_mem hl] at h
    rcases List.mem_cons.mp h with rfl | h
    · exact hl
    · exact ih h

/-! ## Offsets -/

/-- The number of characters before a line of a text. -/
def lineStart (t : Text) (i : Nat) : Nat :=
  (((lines t).take i).flatMap fun line => line ++ ['\n']).length

@[simp] theorem lineStart_zero (t : Text) : lineStart t 0 = 0 := rfl

theorem lineStart_succ_append {s : Text} (h : '\n' ∉ s) (t : Text) (i : Nat) :
    lineStart (s ++ '\n' :: t) (i + 1) = s.length + 1 + lineStart t i := by
  rw [lineStart, lines_append_cons_of_not_mem h, List.take_succ_cons, List.flatMap_cons,
    List.length_append, List.length_append]
  rfl

/-- What stands before a line: nothing, or the lines before it, each with its line feed. -/
theorem exists_eq_append_of_getElem?_lines {t line : Text} {i : Nat}
    (h : (lines t)[i]? = some line) :
    ∃ before after, t = before ++ line ++ after ∧ before.length = lineStart t i ∧
      (∀ s, '\n' ∉ s → lines (before ++ s) = (lines t).take i ++ [s]) ∧
      (after = [] ∨ ∃ rest, after = '\n' :: rest) := by
  induction t using linesInduction generalizing i with
  | single t ht =>
    rw [lines_eq_singleton ht] at h ⊢
    match i with
    | 0 =>
      obtain rfl : t = line := Option.some.inj h
      exact ⟨[], [], by simp, rfl, fun s hs => lines_eq_singleton hs, Or.inl rfl⟩
    | i + 1 => simp at h
  | cons l rest hl ih =>
    rw [lines_append_cons_of_not_mem hl] at h ⊢
    match i with
    | 0 =>
      obtain rfl : l = line := Option.some.inj h
      exact ⟨[], '\n' :: rest, rfl, rfl, fun s hs => lines_eq_singleton hs, Or.inr ⟨rest, rfl⟩⟩
    | i + 1 =>
      obtain ⟨before, after, htext, hlen, hlines, hafter⟩ := ih h
      refine ⟨l ++ '\n' :: before, after, ?_, ?_, fun s hs => ?_, hafter⟩
      · rw [htext]
        simp only [List.append_assoc, List.cons_append]
      · rw [lineStart_succ_append hl, ← hlen, List.length_append, List.length_cons]
        omega
      · rw [List.append_assoc, List.cons_append, lines_append_cons_of_not_mem hl, hlines s hs,
          List.take_succ_cons, List.cons_append]

/-- Every offset of a text is a column of a line. -/
theorem exists_line_of_le {t : Text} {n : Nat} (h : n ≤ t.length) :
    ∃ i line c, (lines t)[i]? = some line ∧ c ≤ line.length ∧ n = lineStart t i + c := by
  induction t using linesInduction generalizing n with
  | single t ht => exact ⟨0, t, n, by rw [lines_eq_singleton ht]; rfl, h, by simp⟩
  | cons l rest hl ih =>
    rw [List.length_append, List.length_cons] at h
    by_cases hn : n ≤ l.length
    · exact ⟨0, l, n, by rw [lines_append_cons_of_not_mem hl]; rfl, hn, by simp⟩
    · obtain ⟨i, line, c, hline, hc, hni⟩ := ih (n := n - (l.length + 1)) (by omega)
      refine ⟨i + 1, line, c, by rw [lines_append_cons_of_not_mem hl]; exact hline, hc, ?_⟩
      rw [lineStart_succ_append hl]
      omega

theorem lineStart_succ {t line : Text} {i : Nat} (h : (lines t)[i]? = some line) :
    lineStart t (i + 1) = lineStart t i + line.length + 1 := by
  unfold lineStart
  rw [List.take_add_one, h, List.flatMap_append, List.length_append]
  simp [Nat.add_assoc]

theorem lineStart_mono (t : Text) {i j : Nat} (h : i ≤ j) : lineStart t i ≤ lineStart t j := by
  obtain ⟨d, rfl⟩ := Nat.exists_eq_add_of_le h
  unfold lineStart
  rw [List.take_add, List.flatMap_append, List.length_append]
  omega

/-- A line ends before a later one starts. -/
theorem lineStart_add_length_lt {t line : Text} {i j : Nat} (h : (lines t)[i]? = some line)
    (hij : i < j) : lineStart t i + line.length < lineStart t j := by
  have hnext := lineStart_succ h
  have hmono := lineStart_mono t (show i + 1 ≤ j by omega)
  omega

/-! ## The last line -/

/-- The last line of a text: what follows its last line feed. -/
def lastLine (t : Text) : Text := (lines t).getLast (lines_ne_nil t)

theorem not_mem_lastLine (t : Text) : '\n' ∉ lastLine t :=
  not_mem_of_mem_lines (List.getLast_mem (lines_ne_nil t))

/-- What follows a line feed and has none is the last line. -/
theorem lastLine_append_cons {s t : Text} (h : '\n' ∉ t) : lastLine (s ++ '\n' :: t) = t := by
  unfold lastLine
  simp only [lines_append_cons, lines_eq_singleton h, List.getLast_append_singleton]

/-- A text with a line feed is cut by its last one. -/
theorem exists_eq_append_lastLine {t : Text} (h : '\n' ∈ t) :
    ∃ s, t = s ++ '\n' :: lastLine t := by
  induction t using linesInduction with
  | single t ht => exact absurd h ht
  | cons l rest hl ih =>
    by_cases hr : '\n' ∈ rest
    · obtain ⟨s, hs⟩ := ih hr
      have hlast : lastLine (l ++ '\n' :: rest) = lastLine rest := by
        have hnl := not_mem_lastLine rest
        rw [hs, ← List.cons_append, ← List.append_assoc, lastLine_append_cons hnl,
          lastLine_append_cons hnl]
      refine ⟨l ++ '\n' :: s, ?_⟩
      rw [hlast, List.append_assoc, List.cons_append, ← hs]
    · exact ⟨l, by rw [lastLine_append_cons hr]⟩

end GraphLint.Text
