import GraphLint.Files.Path
/-! # The order of paths

Names are compared character by character, components by their kind and then by their names, and
paths component by component, so the order of paths is lexicographic three times over.  Every
comparison here is a linear order of what it looks at: two names that compare equal are the same
name, and two paths that compare equal have the same components (`comparePaths_eq_eq_iff`), though
they may be written differently. -/
namespace GraphLint.Files
open Std

/-- Comparing images under a function is transitive if comparing them is. -/
theorem transCmp_map {α β : Type} (f : α → β) (cmp : β → β → Ordering) [TransCmp cmp] :
    TransCmp fun a b => cmp (f a) (f b) where
  eq_swap := OrientedCmp.eq_swap
  isLE_trans := TransCmp.isLE_trans

namespace Component

/-! ## Names -/

theorem nameCompare_eq_compareLex : nameCompare = List.compareLex (compareOn Char.toNat) := by
  funext s t
  induction s generalizing t with
  | nil => cases t <;> rfl
  | cons c s ih =>
    cases t with
    | nil => rfl
    | cons d t => rw [nameCompare, List.compareLex_cons_cons, ih, compareOn]

instance : TransCmp nameCompare := by
  rw [nameCompare_eq_compareLex]
  infer_instance

/-- Names that compare equal are equal. -/
instance : LawfulEqCmp nameCompare where
  compare_self := ReflCmp.compare_self
  eq_of_compare {s t} h := by
    induction s generalizing t with
    | nil =>
      cases t with
      | nil => rfl
      | cons d t => cases h
    | cons c s ih =>
      cases t with
      | nil => cases h
      | cons d t =>
        obtain ⟨hc, hs⟩ := Ordering.then_eq_eq.mp h
        rw [Char.toNat_inj.mp (Nat.compare_eq_eq.mp hc), ih hs]

/-- A name comes before another one where the text does. -/
theorem nameCompare_eq_lt_iff {s t : Text} : nameCompare s t = .lt ↔ s < t := by
  induction s generalizing t with
  | nil => cases t <;> simp [nameCompare]
  | cons c s ih =>
    cases t with
    | nil => simp [nameCompare]
    | cons d t =>
      rw [nameCompare, Ordering.then_eq_lt, ih, Nat.compare_eq_lt, Nat.compare_eq_eq,
        Char.toNat_inj, List.cons_lt_cons_iff]
      rfl

/-! ## Components -/

/-- The name of a component; the others have none. -/
def nameOf : Component → Text
  | name n => n
  | _ => []

theorem order_eq_compareLex :
    order = compareLex (compareOn rank) fun x y => nameCompare x.nameOf y.nameOf := by
  funext x y
  cases x <;> cases y <;> rfl

instance : TransCmp order := by
  rw [order_eq_compareLex]
  have := transCmp_map nameOf nameCompare
  infer_instance

instance : LawfulEqCmp order where
  compare_self := ReflCmp.compare_self
  eq_of_compare {x y} h := by
    cases x <;> cases y <;>
      first | rfl | cases h | exact congrArg name (LawfulEqCmp.eq_of_compare h)

end Component

/-! ## Paths -/

theorem compareComponents_eq_compareLex : compareComponents = List.compareLex Component.order := by
  funext xs ys
  induction xs generalizing ys with
  | nil => cases ys <;> rfl
  | cons x xs ih =>
    cases ys with
    | nil => rfl
    | cons y ys => rw [compareComponents, List.compareLex_cons_cons, ih]

instance : TransCmp compareComponents := by
  rw [compareComponents_eq_compareLex]
  infer_instance

instance : LawfulEqCmp compareComponents := by
  rw [compareComponents_eq_compareLex]
  infer_instance

instance : TransCmp comparePaths := transCmp_map components compareComponents

/-- **Paths compare equal exactly if they have the same components.** -/
theorem comparePaths_eq_eq_iff {p q : Text} : comparePaths p q = .eq ↔ samePath p q = true := by
  rw [comparePaths, LawfulEqCmp.compare_eq_iff_eq, samePath, beq_iff_eq]

theorem samePath_self (p : Text) : samePath p p = true := beq_self_eq_true _

theorem samePath_comm (p q : Text) : samePath p q = samePath q p := Bool.beq_comm

end GraphLint.Files
