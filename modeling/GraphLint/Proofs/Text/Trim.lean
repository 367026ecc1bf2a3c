import GraphLint.Text.Blank
import Mathlib.Data.List.Induction
import Mathlib.Data.List.TakeWhile
/-! # White space at the ends of a text

A text is its trimmed form between two texts of white space (`exists_eq_append_trim`), and white
space that is put around it is trimmed away with that (`trim_append`).  What is read from behind is
read off the last character that is no white space, and a text without one is white space all through
(`allBlank_or_exists_last`). -/
namespace GraphLint.Text
variable {l r s t : Text} {c d : Char}

/-- A text is white space all through. -/
def AllBlank (t : Text) : Prop := ∀ c ∈ t, isBlank c = true

theorem ne_of_isBlank (hc : isBlank c = true) (hd : isBlank d = false) : c ≠ d := by
  rintro rfl
  rw [hc] at hd
  cases hd

/-- What is no white space does not occur in it. -/
theorem AllBlank.not_mem (h : AllBlank t) (hd : isBlank d = false) : d ∉ t :=
  fun hmem => ne_of_isBlank (h d hmem) hd rfl

theorem AllBlank.append (hs : AllBlank s) (ht : AllBlank t) : AllBlank (s ++ t) :=
  List.forall_mem_append.mpr ⟨hs, ht⟩

theorem AllBlank.reverse (h : AllBlank t) : AllBlank t.reverse :=
  fun c hc => h c (List.mem_reverse.mp hc)

/-- **A text is blank, or it has a last character that is not**, and only white space behind it. -/
theorem allBlank_or_exists_last (t : Text) :
    AllBlank t ∨ ∃ s c r, t = s ++ c :: r ∧ isBlank c = false ∧ AllBlank r := by
  induction t using List.reverseRecOn with
  | nil => exact .inl (List.forall_mem_nil _)
  | append_singleton t c ih =>
    cases hc : isBlank c with
    | false => exact .inr ⟨t, c, [], rfl, hc, List.forall_mem_nil _⟩
    | true =>
      have hlast : AllBlank [c] := List.forall_mem_singleton.mpr hc
      rcases ih with hblank | ⟨s, d, r, rfl, hd, hr⟩
      · exact .inl (hblank.append hlast)
      · exact .inr ⟨s, d, r ++ [c], by simp, hd, hr.append hlast⟩

/-! ## Trimming -/

theorem trimStart_append (hl : AllBlank l) (t : Text) : trimStart (l ++ t) = trimStart t :=
  List.dropWhile_append_of_pos hl

theorem trimEnd_append (hr : AllBlank r) (t : Text) : trimEnd (t ++ r) = trimEnd t := by
  unfold trimEnd
  rw [List.reverse_append, List.dropWhile_append_of_pos hr.reverse]

theorem trimEnd_append_cons (hc : isBlank c = false) (hr : AllBlank r) (s : Text) :
    trimEnd (s ++ c :: r) = s ++ [c] := by
  rw [← List.singleton_append, ← List.append_assoc, trimEnd_append hr, trimEnd, List.reverse_append,
    List.reverse_singleton, List.singleton_append, List.dropWhile_cons_of_neg (by simp [hc]),
    List.reverse_cons, List.reverse_reverse]

theorem exists_eq_trimStart (t : Text) : ∃ l, AllBlank l ∧ t = l ++ trimStart t :=
  ⟨t.takeWhile isBlank, fun _ hc => List.mem_takeWhile_imp hc,
    List.takeWhile_append_dropWhile.symm⟩

theorem exists_eq_trimEnd (t : Text) : ∃ r, AllBlank r ∧ t = trimEnd t ++ r := by
  obtain ⟨l, hl, heq⟩ := exists_eq_trimStart t.reverse
  refine ⟨l.reverse, hl.reverse, ?_⟩
  have := congrArg List.reverse heq
  rwa [List.reverse_reverse, List.reverse_append] at this

/-- **A text is its trimmed form between white space.** -/
theorem exists_eq_append_trim (t : Text) :
    ∃ l r, AllBlank l ∧ AllBlank r ∧ t = l ++ trim t ++ r := by
  obtain ⟨l, hl, hstart⟩ := exists_eq_trimStart t
  obtain ⟨r, hr, hend⟩ := exists_eq_trimEnd (trimStart t)
  refine ⟨l, r, hl, hr, ?_⟩
  rw [List.append_assoc]
  exact hstart.trans (congrArg (l ++ ·) hend)

theorem mem_of_mem_trim (h : c ∈ trim t) : c ∈ t := by
  obtain ⟨l, r, -, -, heq⟩ := exists_eq_append_trim t
  rw [heq]
  exact List.mem_append_left _ (List.mem_append_right _ h)

theorem trim_eq_nil_iff : trim t = [] ↔ AllBlank t := by
  constructor
  · intro h
    obtain ⟨l, r, hl, hr, heq⟩ := exists_eq_append_trim t
    rw [h, List.append_nil] at heq
    exact heq ▸ hl.append hr
  · intro h
    have hstart : trimStart t = [] := List.dropWhile_eq_nil_iff.mpr h
    rw [trim, hstart]
    rfl

/-- **White space around a text is trimmed away** with that of the text. -/
theorem trim_append (hl : AllBlank l) (hr : AllBlank r) (t : Text) :
    trim (l ++ t ++ r) = trim t := by
  unfold trim
  rw [List.append_assoc, trimStart_append hl]
  by_cases ht : AllBlank t
  · have hnil : trimStart t = [] := List.dropWhile_eq_nil_iff.mpr ht
    have hright : trimStart (t ++ r) = [] := List.dropWhile_eq_nil_iff.mpr (ht.append hr)
    rw [hnil, hright]
  · have hstart : trimStart (t ++ r) = trimStart t ++ r := by
      unfold trimStart
      rw [List.dropWhile_append, if_neg]
      rw [List.isEmpty_iff, List.dropWhile_eq_nil_iff]
      exact ht
    rw [hstart, trimEnd_append hr]

end GraphLint.Text
