import GraphLint.Project
import GraphLint.Proofs.Files.Order
import GraphLint.Proofs.Position
import Mathlib.Data.List.Pairwise
/-! # The order of the findings about a project

Findings are ordered by file, then by where they start, then by rule (`compareFindings_eq_lt_iff`).
Findings that agree in all three compare equal although they may differ otherwise, and then a stable
sort would show the order in which they were found.  Where no two findings agree in all three,
sorting leaves nothing open: the result is strictly increasing (`sort_pairwise_precedes`), and it is
the same whatever the order of the findings was (`sort_eq_of_perm`). -/
namespace GraphLint.Project
open Files Std

/-- One finding comes before another one: its file does, or in the same file its start does, or at
the same start its rule does. -/
def Precedes (a b : FileDiagnostic) : Prop :=
  comparePaths a.file b.file = .lt ∨ samePath a.file b.file = true ∧
    (a.diagnostic.range.start.Precedes b.diagnostic.range.start ∨
      a.diagnostic.range.start = b.diagnostic.range.start ∧ a.diagnostic.rule < b.diagnostic.rule)

/-- Two findings agree in their file, their start and their rule. -/
def Agree (a b : FileDiagnostic) : Prop :=
  samePath a.file b.file = true ∧ a.diagnostic.range.start = b.diagnostic.range.start ∧
    a.diagnostic.rule = b.diagnostic.rule

/-! ## The comparison -/

/-- The comparison of findings as a chain of four comparisons. -/
theorem compareFindings_eq_compareLex : compareFindings =
    compareLex (fun a b => comparePaths a.file b.file)
      (compareLex (compareOn (·.diagnostic.range.start.line))
        (compareLex (compareOn (·.diagnostic.range.start.character))
          fun a b => Component.nameCompare a.diagnostic.rule.toList b.diagnostic.rule.toList)) :=
  rfl

instance : TransCmp compareFindings := by
  rw [compareFindings_eq_compareLex]
  have := transCmp_map FileDiagnostic.file comparePaths
  have := transCmp_map (fun a : FileDiagnostic => a.diagnostic.rule.toList) Component.nameCompare
  infer_instance

/-- Findings that compare equal agree. -/
theorem compareFindings_eq_eq_iff {a b : FileDiagnostic} :
    compareFindings a b = .eq ↔ Agree a b := by
  simp only [compareFindings, Agree, Ordering.then_eq_eq, comparePaths_eq_eq_iff,
    LawfulEqCmp.compare_eq_iff_eq, String.toList_inj, Position.eq_iff, and_assoc]

/-- **The comparison of findings is the order of their places.** -/
theorem compareFindings_eq_lt_iff {a b : FileDiagnostic} :
    compareFindings a b = .lt ↔ Precedes a b := by
  have hrule : a.diagnostic.rule.toList < b.diagnostic.rule.toList ↔
      a.diagnostic.rule < b.diagnostic.rule := Iff.rfl
  simp only [compareFindings, Precedes, Position.Precedes, Ordering.then_eq_lt,
    comparePaths_eq_eq_iff, compare_eq_lt, LawfulEqCmp.compare_eq_iff_eq,
    Component.nameCompare_eq_lt_iff, hrule, Position.eq_iff]
  tauto

/-! ## Sorting -/

theorem Agree.symm {a b : FileDiagnostic} (h : Agree a b) : Agree b a := by
  rw [← compareFindings_eq_eq_iff] at h ⊢
  exact OrientedCmp.eq_comm.mp h

theorem isLE_total (a b : FileDiagnostic) :
    ((compareFindings a b).isLE || (compareFindings b a).isLE) = true := by
  rw [@OrientedCmp.eq_swap _ compareFindings _ b a]
  cases compareFindings a b <;> rfl

/-- Sorting only changes the order. -/
theorem sort_perm (found : List FileDiagnostic) : (sort found).Perm found :=
  List.mergeSort_perm found _

theorem sort_pairwise_isLE (found : List FileDiagnostic) :
    (sort found).Pairwise fun a b => (compareFindings a b).isLE = true :=
  List.pairwise_mergeSort (fun _ _ _ => TransCmp.isLE_trans) isLE_total found

section Distinct
variable {found other : List FileDiagnostic} (hne : found.Pairwise fun a b => ¬ Agree a b)
include hne

/-- **Sorted findings are strictly increasing** where no two of them agree. -/
theorem sort_pairwise_precedes : (sort found).Pairwise Precedes := by
  have hsorted : (sort found).Pairwise fun a b => ¬ Agree a b :=
    (sort_perm found).symm.pairwise hne (mt Agree.symm)
  refine ((sort_pairwise_isLE found).and hsorted).imp fun {a b} ⟨hle, hab⟩ => ?_
  rw [← compareFindings_eq_eq_iff] at hab
  rw [← compareFindings_eq_lt_iff]
  cases hc : compareFindings a b with
  | lt => rfl
  | eq => exact absurd hc hab
  | gt =>
    rw [hc] at hle
    cases hle

/-- **Sorting does not show the order in which findings were found** where no two of them agree. -/
theorem sort_eq_of_perm (h : other.Perm found) : sort other = sort found := by
  have hperm : (sort other).Perm (sort found) :=
    (sort_perm other).trans (h.trans (sort_perm found).symm)
  refine List.Perm.eq_of_pairwise ?_ (sort_pairwise_isLE other) (sort_pairwise_isLE found) hperm
  intro a b ha hb hab hba
  -- findings that agree are one and the same, since both are in `found`
  have hagree : Agree a b := compareFindings_eq_eq_iff.mp (OrientedCmp.isLE_antisymm hab hba)
  have ha' : a ∈ found := h.mem_iff.mp ((sort_perm other).mem_iff.mp ha)
  have hb' : b ∈ found := (sort_perm found).mem_iff.mp hb
  have : Std.Symm fun a b : FileDiagnostic => ¬ Agree a b := ⟨fun _ _ => mt Agree.symm⟩
  exact Classical.byContradiction fun hdiff => hne.forall ha' hb' hdiff hagree

end Distinct
end GraphLint.Project
