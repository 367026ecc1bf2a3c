import GraphLint.Server.Documents
import Mathlib.Data.List.Basic
/-! # What a registry holds

A registry is read by looking up a URI.  `insert` and `erase` change what is found under one URI and
nothing else, and they keep a registry `Valid`: no URI has two entries, and every document has the
name of its URI. -/
namespace GraphLint.Server.Registry

variable {r : Registry} {u v : Uri} {d : Document}

/-- The URIs that have a document. -/
def keys (r : Registry) : List Uri := r.entries.map (·.1)

theorem mem_keys_iff : u ∈ r.keys ↔ (r.get? u).isSome = true := by
  unfold keys get?
  rw [List.lookup_isSome_iff, List.mem_map]
  constructor
  · rintro ⟨e, he, rfl⟩
    exact ⟨e, he, beq_self_eq_true _⟩
  · rintro ⟨e, he, heq⟩
    exact ⟨e, he, (beq_iff_eq.mp heq).symm⟩

/-! ## Looking up -/

@[simp] theorem get?_erase_self (r : Registry) (u : Uri) : (r.erase u).get? u = none := by
  unfold get? erase
  rw [List.lookup_eq_none_iff]
  intro e he
  have hne : e.1 ≠ u := of_decide_eq_true (List.mem_filter.mp he).2
  exact bne_iff_ne.mpr (Ne.symm hne)

theorem get?_erase_of_ne (r : Registry) (h : v ≠ u) : (r.erase u).get? v = r.get? v := by
  unfold get? erase
  induction r.entries with
  | nil => rfl
  | cons e rest ih =>
    obtain ⟨k, d⟩ := e
    by_cases hk : k = u
    · rw [List.filter_cons_of_neg (by simp [hk]), ih, List.lookup_cons,
        beq_false_of_ne (hk ▸ h)]
    · rw [List.filter_cons_of_pos (by simp [hk]), List.lookup_cons, List.lookup_cons, ih]

@[simp] theorem get?_insert_self (r : Registry) (u : Uri) (d : Document) :
    (r.insert u d).get? u = some d :=
  List.lookup_cons_self

theorem get?_insert_of_ne (r : Registry) (d : Document) (h : v ≠ u) :
    (r.insert u d).get? v = r.get? v := by
  rw [← get?_erase_of_ne r h]
  unfold get? insert
  rw [List.lookup_cons, beq_false_of_ne h]

/-! ## Validity -/

/-- **A registry has at most one document under each URI**, and each has the name of its URI. -/
structure Valid (r : Registry) : Prop where
  keys_nodup : r.keys.Nodup
  name_eq : ∀ e ∈ r.entries, e.2.name = e.1.print

theorem valid_empty : Valid {} := ⟨List.nodup_nil, fun _ he => absurd he List.not_mem_nil⟩

theorem Valid.erase (h : r.Valid) (u : Uri) : (r.erase u).Valid := by
  constructor
  · exact h.keys_nodup.sublist (List.filter_sublist.map _)
  · intro e he
    exact h.name_eq e (List.mem_filter.mp he).1

theorem Valid.insert (h : r.Valid) (hd : d.name = u.print) : (r.insert u d).Valid := by
  have hrest := h.erase u
  constructor
  · refine List.nodup_cons.mpr ⟨fun hmem => ?_, hrest.keys_nodup⟩
    have := mem_keys_iff.mp hmem
    rw [get?_erase_self] at this
    cases this
  · intro e he
    rcases List.mem_cons.mp he with rfl | he
    · exact hd
    · exact hrest.name_eq e he

/-- A document that is found under a URI has its name. -/
theorem Valid.name_eq_print (h : r.Valid) (hd : r.get? u = some d) : d.name = u.print := by
  obtain ⟨before, after, hentries, _⟩ := List.lookup_eq_some_iff.mp hd
  exact h.name_eq (u, d) (hentries ▸ List.mem_append_right _ List.mem_cons_self)

end GraphLint.Server.Registry
