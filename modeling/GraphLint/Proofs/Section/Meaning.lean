import GraphLint.Proofs.Section.Cursor
/-! # What the section of a cursor means

The context of a cursor is computed by a search upwards, line by line.  `Means` says what it is
without a search: which line decides is a matter of indentation alone (`Decides`), and what that
line starts with names the section.  `contextAt_means` joins the two.

The search may stop at the line that decides, or go on to the first line of the text.  Once it has
found a section it keeps it (`Search.observe_of_isSome`), so both give the same answer
(`Search.observeUntilFound_eq`), which is that of the first line that is indented less
(`Search.found_observeAll`).  Fed upwards, the first such line is the one with the greatest number
(`find?_reverse_take_cases`). -/
namespace GraphLint.Section
open Expression

variable {lines : List Text} {line : Text} {i j indent : Nat} {place : Section}

/-! ## The search -/

namespace Search
variable {s : Search} {fed : List (Nat × Text)}

/-- After some more lines, each with its indentation. -/
def observeAll (s : Search) (fed : List (Nat × Text)) : Search :=
  fed.foldl (fun s l => s.observe l.1 l.2) s

/-- After some more lines up to the first one at which a section is known. -/
def observeUntilFound (s : Search) : List (Nat × Text) → Search
  | [] => s
  | l :: rest =>
    let next := s.observe l.1 l.2
    if next.found.isSome then next else next.observeUntilFound rest

/-- A search keeps what it has found. -/
theorem observe_of_isSome (h : s.found.isSome = true) (indent : Nat) (line : Text) :
    s.observe indent line = s := by
  rw [observe, h, Bool.true_or, if_pos rfl]

theorem observeAll_of_isSome (h : s.found.isSome = true) (fed : List (Nat × Text)) :
    s.observeAll fed = s := by
  induction fed with
  | nil => rfl
  | cons l rest ih =>
    rw [observeAll, List.foldl_cons, observe_of_isSome h]
    exact ih

/-- **It does not matter whether a search stops** at the line that decides. -/
theorem observeUntilFound_eq (s : Search) (fed : List (Nat × Text)) :
    s.observeUntilFound fed = s.observeAll fed := by
  induction fed generalizing s with
  | nil => rfl
  | cons l rest ih =>
    rw [observeUntilFound, observeAll, List.foldl_cons]
    split
    · rename_i hfound
      exact (observeAll_of_isSome hfound rest).symm
    · exact ih _

/-- A search finds the section of the first line that is indented less. -/
theorem found_observeAll (indent : Nat) (fed : List (Nat × Text)) :
    ((start indent).observeAll fed).found =
      (fed.find? fun l => l.1 < indent).map fun l => ofHeader l.2 := by
  induction fed with
  | nil => rfl
  | cons l rest ih =>
    rw [observeAll, List.foldl_cons]
    by_cases hl : l.1 < indent
    · have hobserve : (start indent).observe l.1 l.2 = ⟨indent, some (ofHeader l.2)⟩ :=
        if_neg (Bool.eq_false_iff.mp (decide_eq_false (Nat.not_le_of_lt hl)))
      rw [List.find?_cons_of_pos (by simpa using hl), hobserve]
      exact congrArg found (observeAll_of_isSome rfl rest)
    · have hobserve : (start indent).observe l.1 l.2 = start indent :=
        if_pos (decide_eq_true (Nat.le_of_not_lt hl))
      rw [List.find?_cons_of_neg (by simpa using hl), hobserve]
      exact ih

end Search

/-- A line as a search is fed with it. -/
def feed (line : Text) : Nat × Text := (Text.indentation line, Text.trim line)

theorem searchUp_eq_observeAll (indent : Nat) (above : List Text) :
    searchUp indent above = ((Search.start indent).observeAll (above.map feed)).result := by
  rw [searchUp, Search.observeAll, List.foldl_map]
  rfl

/-- The search upwards is decided by the first line that is indented less. -/
theorem searchUp_eq (indent : Nat) (above : List Text) :
    searchUp indent above =
      ((above.find? fun l => Text.indentation l < indent).map fun l =>
        ofHeader (Text.trim l)).getD .topLevel := by
  rw [searchUp_eq_observeAll, Search.result, Search.found_observeAll, List.find?_map,
    Option.map_map]
  rfl

/-! ## The line that decides -/

/-- Line `j` decides for a cursor on line `i`: of the lines above it is the last one that is
indented less. -/
structure Decides (lines : List Text) (i indent j : Nat) (line : Text) : Prop where
  getElem?_eq : lines[j]? = some line
  above : j < i
  indentation_lt : Text.indentation line < indent
  greatest : ∀ k l, lines[k]? = some l → k < i → Text.indentation l < indent → k ≤ j

/-- No line above line `i` is indented less. -/
def NoneDecides (lines : List Text) (i indent : Nat) : Prop :=
  ∀ k l, lines[k]? = some l → k < i → indent ≤ Text.indentation l

/-- A line that is not indented less is passed over. -/
theorem Decides.succ (h : Decides lines i indent j line)
    (hpass : ∀ l, lines[i]? = some l → indent ≤ Text.indentation l) :
    Decides lines (i + 1) indent j line where
  getElem?_eq := h.getElem?_eq
  above := Nat.lt_succ_of_lt h.above
  indentation_lt := h.indentation_lt
  greatest k l hk hle hl := by
    rcases Nat.lt_succ_iff_lt_or_eq.mp hle with hlt | rfl
    · exact h.greatest k l hk hlt hl
    · exact absurd (hpass l hk) (Nat.not_le_of_lt hl)

theorem NoneDecides.succ (h : NoneDecides lines i indent)
    (hpass : ∀ l, lines[i]? = some l → indent ≤ Text.indentation l) :
    NoneDecides lines (i + 1) indent := by
  intro k l hk hle
  rcases Nat.lt_succ_iff_lt_or_eq.mp hle with hlt | rfl
  · exact h k l hk hlt
  · exact hpass l hk

/-- **Upwards, the line that decides comes first.** -/
theorem find?_reverse_take_cases (lines : List Text) (i indent : Nat) :
    match (lines.take i).reverse.find? fun l => Text.indentation l < indent with
    | some line => ∃ j, Decides lines i indent j line
    | none => NoneDecides lines i indent := by
  induction i with
  | zero => exact fun k l _ hk => absurd hk (Nat.not_lt_zero k)
  | succ i ih =>
    by_cases hless : ∃ line, lines[i]? = some line ∧ Text.indentation line < indent
    · obtain ⟨line, hline, hless⟩ := hless
      have hfirst : (lines.take (i + 1)).reverse = line :: (lines.take i).reverse := by
        rw [List.take_add_one, hline, Option.toList_some, List.reverse_append]
        rfl
      rw [hfirst, List.find?_cons_of_pos (by simpa using hless)]
      exact ⟨i, hline, Nat.lt_succ_self i, hless, fun k l _ hk _ => Nat.le_of_lt_succ hk⟩
    · have hpass : ∀ l, lines[i]? = some l → indent ≤ Text.indentation l := fun l hl =>
        Nat.le_of_not_lt fun hlt => hless ⟨l, hl, hlt⟩
      have hfind : (lines.take (i + 1)).reverse.find? (fun l => Text.indentation l < indent) =
          (lines.take i).reverse.find? fun l => Text.indentation l < indent := by
        rw [List.take_add_one, List.reverse_append]
        cases hline : lines[i]? with
        | none => rfl
        | some line =>
          exact List.find?_cons_of_neg (by simpa using hpass line hline)
      rw [hfind]
      split at ih
      · obtain ⟨j, hj⟩ := ih
        exact ⟨j, hj.succ hpass⟩
      · exact ih.succ hpass

theorem Decides.unique {j' : Nat} {line' : Text} (h : Decides lines i indent j line)
    (h' : Decides lines i indent j' line') : line = line' := by
  have hle := h.greatest j' line' h'.getElem?_eq h'.above h'.indentation_lt
  have hge := h'.greatest j line h.getElem?_eq h.above h.indentation_lt
  obtain rfl := Nat.le_antisymm hge hle
  exact Option.some.inj (h.getElem?_eq.symm.trans h'.getElem?_eq)

/-! ## Headers -/

/-- A line, without the white space around it, is the header of a section.  Whatever is no other
header belongs to the top level. -/
def IsHeaderOf (line : Text) : Section → Prop
  | .resources => "resources:".toList <+: line
  | .relations => "relations:".toList <+: line
  | .parameters => "parameters:".toList <+: line
  | .topLevel => ¬ "resources:".toList <+: line ∧ ¬ "relations:".toList <+: line ∧
      ¬ "parameters:".toList <+: line
  | _ => False

/-- A text does not start with two words unless one of them starts with the other. -/
theorem not_prefix_of_prefix {v w t : Text} (h : v <+: t) (hvw : ¬ v <+: w) (hwv : ¬ w <+: v) :
    ¬ w <+: t :=
  fun hw => (List.prefix_or_prefix_of_prefix h hw).elim hvw hwv

/-- **A line has the section that it is a header of**, and no other one. -/
theorem ofHeader_eq_iff : ofHeader line = place ↔ IsHeaderOf line place := by
  unfold ofHeader
  simp only [List.isPrefixOf_iff_prefix]
  by_cases hres : "resources:".toList <+: line
  · have hrel := not_prefix_of_prefix hres (w := "relations:".toList) (by decide) (by decide)
    have hpar := not_prefix_of_prefix hres (w := "parameters:".toList) (by decide) (by decide)
    cases place <;> simp only [IsHeaderOf, hres, hrel, hpar, if_true, reduceCtorEq, not_true,
      false_and]
  · by_cases hrel : "relations:".toList <+: line
    · have hpar := not_prefix_of_prefix hrel (w := "parameters:".toList) (by decide) (by decide)
      cases place <;> simp only [IsHeaderOf, hres, hrel, hpar, if_true, if_false, reduceCtorEq,
        not_true, false_and, and_false]
    · by_cases hpar : "parameters:".toList <+: line
      · cases place <;> simp only [IsHeaderOf, hres, hrel, hpar, if_true, if_false, reduceCtorEq,
          not_true, and_false]
      · cases place <;> simp only [IsHeaderOf, hres, hrel, hpar, if_false, reduceCtorEq,
          not_false_eq_true, and_self]

theorem IsHeaderOf.unique {place' : Section} (h : IsHeaderOf line place)
    (h' : IsHeaderOf line place') : place = place' :=
  (ofHeader_eq_iff.mpr h).symm.trans (ofHeader_eq_iff.mpr h')

/-- The search upwards answers with the section of the line that decides. -/
theorem searchUp_cases (lines : List Text) (i indent : Nat) :
    (∃ j above, Decides lines i indent j above ∧
      IsHeaderOf (Text.trim above) (searchUp indent (lines.take i).reverse)) ∨
    NoneDecides lines i indent ∧ searchUp indent (lines.take i).reverse = .topLevel := by
  have hcases := find?_reverse_take_cases lines i indent
  rw [searchUp_eq]
  split at hcases
  · rename_i above hfind
    obtain ⟨j, hj⟩ := hcases
    rw [hfind]
    exact .inl ⟨j, above, hj, ofHeader_eq_iff.mp rfl⟩
  · rename_i hfind
    rw [hfind]
    exact .inr ⟨hcases, rfl⟩

/-! ## The meaning of a context -/

/-- An opening marker of a text has no closing marker after it. -/
def IsOpen (t : Text) : Prop := ∃ u v, t = u ++ openMarker ++ v ∧ ¬ closeMarker <:+: v

/-- What the context of a cursor in column `c` of line `i` is. -/
inductive Means (lines : List Text) (i c : Nat) : Context → Prop
  /-- Past the last line. -/
  | past (h : lines.length ≤ i) : Means lines i c ⟨.topLevel, []⟩
  /-- Behind an opening marker that is not closed before the cursor. -/
  | inside {line : Text} (hline : lines[i]? = some line)
      (hin : IsOpen (line.take (min c line.length))) :
      Means lines i c ⟨.expression, line.take (min c line.length)⟩
  /-- Below the line that decides. -/
  | below {line above : Text} {j : Nat} {place : Section} (hline : lines[i]? = some line)
      (hout : ¬ IsOpen (line.take (min c line.length)))
      (hj : Decides lines i (Text.indentation line) j above)
      (hplace : IsHeaderOf (Text.trim above) place) :
      Means lines i c ⟨place, line.take (min c line.length)⟩
  /-- Where no line decides. -/
  | outermost {line : Text} (hline : lines[i]? = some line)
      (hout : ¬ IsOpen (line.take (min c line.length)))
      (hnone : NoneDecides lines i (Text.indentation line)) :
      Means lines i c ⟨.topLevel, line.take (min c line.length)⟩

section
variable {p : Position} {context : Context}

theorem contextInLines_of_isOpen (hline : lines[p.line.toNat]? = some line)
    (hin : IsOpen (line.take (min p.character.toNat line.length))) :
    contextInLines lines p = ⟨.expression, line.take (min p.character.toNat line.length)⟩ := by
  rw [← List.take_eq_take_min] at hin ⊢
  have hends := endsInExpression_iff.mpr hin
  simp only [contextInLines, hline, hends, if_true]

theorem contextInLines_of_not_isOpen (hline : lines[p.line.toNat]? = some line)
    (hout : ¬ IsOpen (line.take (min p.character.toNat line.length))) :
    contextInLines lines p =
      ⟨searchUp (Text.indentation line) (lines.take p.line.toNat).reverse,
        line.take (min p.character.toNat line.length)⟩ := by
  rw [← List.take_eq_take_min] at hout ⊢
  have hends : endsInExpression (line.take p.character.toNat) = false :=
    Bool.eq_false_iff.mpr (mt endsInExpression_iff.mp hout)
  simp only [contextInLines, hline, hends, if_false, Bool.false_eq_true]

/-- **The context of a cursor is what it means**, and nothing else. -/
theorem contextInLines_eq_iff :
    contextInLines lines p = context ↔
      Means lines p.line.toNat p.character.toNat context := by
  constructor
  · rintro rfl
    cases hline : lines[p.line.toNat]? with
    | none =>
      have hpast : contextInLines lines p = ⟨.topLevel, []⟩ := by rw [contextInLines, hline]
      rw [hpast]
      exact .past (List.getElem?_eq_none_iff.mp hline)
    | some line =>
      by_cases hopen : IsOpen (line.take (min p.character.toNat line.length))
      · rw [contextInLines_of_isOpen hline hopen]
        exact .inside hline hopen
      · rw [contextInLines_of_not_isOpen hline hopen]
        rcases searchUp_cases lines p.line.toNat (Text.indentation line) with
          ⟨j, above, hj, hplace⟩ | ⟨hnone, htop⟩
        · exact .below hline hopen hj hplace
        · rw [htop]
          exact .outermost hline hopen hnone
  · intro h
    cases h with
    | past h => rw [contextInLines, List.getElem?_eq_none h]
    | inside hline hin => exact contextInLines_of_isOpen hline hin
    | @below line above j place hline hout hj hplace =>
      rw [contextInLines_of_not_isOpen hline hout]
      rcases searchUp_cases lines p.line.toNat (Text.indentation line) with
        ⟨j', above', hj', hplace'⟩ | ⟨hnone, _⟩
      · obtain rfl := hj.unique hj'
        rw [hplace.unique hplace']
      · exact absurd (hnone j above hj.getElem?_eq hj.above) (Nat.not_le_of_lt hj.indentation_lt)
    | @outermost line hline hout hnone =>
      rw [contextInLines_of_not_isOpen hline hout]
      rcases searchUp_cases lines p.line.toNat (Text.indentation line) with
        ⟨j, above, hj, _⟩ | ⟨_, htop⟩
      · exact absurd (hnone j above hj.getElem?_eq hj.above) (Nat.not_le_of_lt hj.indentation_lt)
      · rw [htop]

theorem Means.place_ne_spec {c : Nat} (h : Means lines i c context) : context.place ≠ .spec := by
  cases h with
  | past _ => exact nofun
  | inside _ _ => exact nofun
  | below _ _ _ hplace =>
    rintro rfl
    exact hplace
  | outermost _ _ _ => exact nofun

end

/-- **What the context of a cursor is, and that the search for it may stop.**  The context is what
it means, which is never the specification as such.  The section outside expressions is what a
search finds that stops at the line that decides; and whatever lines a search is fed with, it finds
the same whether it stops or not. -/
theorem contextAt_means (text : Text) (p : Position) :
    (∀ context, contextAt text p = context ↔
      Means (Text.lines text) p.line.toNat p.character.toNat context) ∧
    (contextAt text p).place ≠ .spec ∧
    (∀ indent above, searchUp indent above =
      ((Search.start indent).observeUntilFound (above.map feed)).result) ∧
    ∀ indent fed, ((Search.start indent).observeAll fed).result =
      ((Search.start indent).observeUntilFound fed).result := by
  refine ⟨fun _ => contextInLines_eq_iff, ?_, fun indent above => ?_, fun indent fed => ?_⟩
  · exact (contextInLines_eq_iff.mp rfl).place_ne_spec
  · rw [Search.observeUntilFound_eq, searchUp_eq_observeAll]
  · rw [Search.observeUntilFound_eq]

/-- A blank line above the cursor is indented less, so it decides and the header above does not. -/
example : contextAt "resources:\n\n  ".toList ⟨2, 2⟩ = ⟨.topLevel, "  ".toList⟩ := by decide

end GraphLint.Section
