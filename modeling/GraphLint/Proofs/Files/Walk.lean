import GraphLint.Files.Walk
import GraphLint.Proofs.Files.Tree
/-! # What a walk comes by

Every walked path is the path that the walk starts from, with the names of entries behind it
(`exists_of_mem_walk`), so it starts the way the start is written.  Where a directory has no two
entries of one name, the walk comes by nothing twice (`walk_pairwise_samePath`): the paths of two
entries of one directory differ in the component right behind that directory. -/
namespace GraphLint.Files

/-! ## Walked paths -/

section
variable {fs : FileSystem} {path p : Text}

mutual

theorem exists_of_mem_walkNode {levels : Levels} {path p : Text} {node : Node}
    (h : p ∈ walkNode fs levels path node) :
    ∃ names leaf, node.Holds names leaf ∧ p = descend path names := by
  cases node with
  | directory entries =>
    rw [walkNode] at h
    obtain ⟨e, names, leaf, hentry, hholds, rfl⟩ := exists_of_mem_walkEntries h
    exact ⟨e.1 :: names, leaf, .under hentry hholds, rfl⟩
  | _ =>
    simp only [walkNode, List.mem_ite_nil_right, List.mem_singleton] at h
    exact ⟨[], _, .here _, h.2⟩

theorem exists_of_mem_walkEntries {levels : Levels} {directory p : Text}
    {entries : List (Text × Node)} (h : p ∈ walkEntries fs levels directory entries) :
    ∃ e names leaf, e ∈ entries ∧ e.2.Holds names leaf ∧
      p = descend (child directory e.1) names := by
  cases entries with
  | nil =>
    rw [walkEntries] at h
    cases h
  | cons e rest =>
    obtain ⟨name, node⟩ := e
    rw [walkEntries, List.mem_append] at h
    rcases h with h | h
    · split at h
      · cases h
      · obtain ⟨names, leaf, hholds, rfl⟩ := exists_of_mem_walkNode h
        exact ⟨_, names, leaf, List.mem_cons_self, hholds, rfl⟩
    · obtain ⟨e, names, leaf, hmem, hholds⟩ := exists_of_mem_walkEntries h
      exact ⟨e, names, leaf, List.mem_cons_of_mem _ hmem, hholds⟩

end

/-- **Every walked path is the start with names behind it.** -/
theorem exists_of_mem_walk (h : p ∈ walk fs path) : ∃ place node names leaf,
    fs.locate path = .ok (place, node) ∧ node.Holds names leaf ∧ p = descend path names := by
  unfold walk at h
  split at h
  · cases h
  · split at h
    · cases h
    · rename_i place node hlocate
      obtain ⟨names, leaf, hholds, hp⟩ := exists_of_mem_walkNode h
      exact ⟨place, node, names, leaf, hlocate, hholds, hp⟩

theorem ne_nil_of_locate {result : List Text × Node} (h : fs.locate path = .ok result) :
    path ≠ [] := by
  rintro rfl
  cases h

/-- A walked path is the start, or it leads below the start. -/
theorem eq_or_exists_child_of_mem_walk (h : p ∈ walk fs path) :
    p = path ∨ ∃ rest, p = child path rest := by
  obtain ⟨-, -, names, -, -, -, rfl⟩ := exists_of_mem_walk h
  cases names with
  | nil => exact .inl rfl
  | cons name names =>
    obtain ⟨rest, hrest⟩ := prefix_descend (child path name) names
    refine .inr ⟨name ++ rest, ?_⟩
    rw [descend_cons, ← hrest, child_eq path name, child_eq path (name ++ rest), List.append_assoc]

/-- A walked path is absolute exactly if the start is. -/
theorem isAbsolute_of_mem_walk (h : p ∈ walk fs path) : isAbsolute p = isAbsolute path := by
  obtain ⟨_, _, names, _, hlocate, -, rfl⟩ := exists_of_mem_walk h
  exact isAbsolute_of_starts (ne_nil_of_locate hlocate) (prefix_descend path names)

/-- Walked paths of the same components are written in the same way. -/
theorem eq_of_mem_walk_of_samePath {q : Text} (hfs : fs.root.WellFormed) (hp : p ∈ walk fs path)
    (hq : q ∈ walk fs path) (h : samePath p q = true) : p = q := by
  obtain ⟨_, node, names, _, hlocate, hholds, rfl⟩ := exists_of_mem_walk hp
  obtain ⟨_, _, others, _, hlocate', hholds', rfl⟩ := exists_of_mem_walk hq
  obtain ⟨-, rfl⟩ := Prod.ext_iff.mp (Except.ok.inj (hlocate.symm.trans hlocate'))
  have hnode := (FileSystem.stands_of_locate hlocate).wellFormed hfs
  have hpath := ne_nil_of_locate hlocate
  rw [samePath, beq_iff_eq, components_descend hpath (hnode.of_holds hholds).2,
    components_descend hpath (hnode.of_holds hholds').2, List.append_cancel_left_eq] at h
  rw [List.map_injective_iff.mpr (fun _ _ => Component.name.inj) h]

/-! ## Nothing twice -/

/-- Paths that go on from a directory by different names are different. -/
theorem samePath_descend_child {m n : Text} {ms ns : List Text} (hpath : path ≠ [])
    (hms : ∀ x ∈ m :: ms, IsName x) (hns : ∀ x ∈ n :: ns, IsName x) (hne : m ≠ n) :
    samePath (descend (child path m) ms) (descend (child path n) ns) = false := by
  rw [samePath, beq_eq_false_iff_ne, ← descend_cons, ← descend_cons,
    components_descend hpath hms, components_descend hpath hns]
  intro h
  rw [List.append_cancel_left_eq, List.map_cons, List.map_cons, List.cons.injEq] at h
  exact hne (Component.name.inj h.1)

theorem walkEntries_pairwise_samePath {levels : Levels} {entries : List (Text × Node)}
    (hpath : path ≠ []) (hdistinct : (entries.map (·.1)).Nodup)
    (hnames : ∀ e ∈ entries, IsName e.1) (hchildren : ∀ e ∈ entries, e.2.WellFormed)
    (hwalk : ∀ e ∈ entries, ∀ (levels : Levels) (path : Text), path ≠ [] →
      (walkNode fs levels path e.2).Pairwise fun p q => samePath p q = false) :
    (walkEntries fs levels path entries).Pairwise fun p q => samePath p q = false := by
  induction entries with
  | nil =>
    rw [walkEntries]
    exact .nil
  | cons e rest ih =>
    obtain ⟨name, node⟩ := e
    obtain ⟨hname, hnames⟩ := List.forall_mem_cons.mp hnames
    obtain ⟨hnode, hchildren⟩ := List.forall_mem_cons.mp hchildren
    obtain ⟨hfirst, hwalk⟩ := List.forall_mem_cons.mp hwalk
    obtain ⟨hfresh, hdistinct⟩ := List.nodup_cons.mp hdistinct
    rw [walkEntries, List.pairwise_append]
    refine ⟨?_, ih hdistinct hnames hchildren hwalk, fun p hp q hq => ?_⟩
    · split
      · exact .nil
      · exact hfirst _ _ (child_ne_nil hpath)
    · -- a path below the first entry, and one below a later entry of another name
      split at hp
      · cases hp
      · obtain ⟨ms, _, hms, rfl⟩ := exists_of_mem_walkNode hp
        obtain ⟨e, ns, _, he, hns, rfl⟩ := exists_of_mem_walkEntries hq
        refine samePath_descend_child hpath ?_ ?_ ?_
        · exact List.forall_mem_cons.mpr ⟨hname, (hnode.of_holds hms).2⟩
        · exact List.forall_mem_cons.mpr ⟨hnames e he, ((hchildren e he).of_holds hns).2⟩
        · rintro rfl
          exact hfresh (List.mem_map.mpr ⟨e, he, rfl⟩)

theorem walkNode_pairwise_samePath {node : Node} (h : node.WellFormed) (levels : Levels)
    (path : Text) (hpath : path ≠ []) :
    (walkNode fs levels path node).Pairwise fun p q => samePath p q = false := by
  induction h generalizing levels path with
  | directory hdistinct hnames hchildren ih =>
    rw [walkNode]
    exact walkEntries_pairwise_samePath hpath hdistinct hnames hchildren ih
  | _ =>
    simp only [walkNode]
    split
    · exact List.pairwise_singleton ..
    · exact .nil

/-- **A walk comes by nothing twice.** -/
theorem walk_pairwise_samePath {place : List Text} {node : Node}
    (hlocate : fs.locate path = .ok (place, node)) (h : node.WellFormed) :
    (walk fs path).Pairwise fun p q => samePath p q = false := by
  unfold walk
  split
  · exact .nil
  · rw [hlocate]
    exact walkNode_pairwise_samePath h _ path (ne_nil_of_locate hlocate)

end
end GraphLint.Files
