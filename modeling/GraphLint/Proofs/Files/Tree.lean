import GraphLint.Proofs.Files.Path
/-! # Places in a tree

The tree below a node is a relation, `Node.Holds`: which names lead to which node.  In a tree that
is `WellFormed` every entry of a directory has a name and no two entries have the same one, as a file
system makes sure.

A place is reached without a link if one goes to it by its names, so a look-up arrives at it
whatever idle parts the path has (`advance_append`).  Hence an entry of the working directory is
found in the same way by its name alone and by any absolute path of that directory with the name
behind it (`stopAt_child`), and what follows from there, links included, is the same too.  Whatever
a look-up comes to stands in the tree, or it is a directory that was removed (`stands_of_locate`). -/
namespace GraphLint.Files

namespace Node

/-- A node has another one below it, and these names lead to it. -/
inductive Holds : Node → List Text → Node → Prop where
  | here (n : Node) : Holds n [] n
  | under {entries : List (Text × Node)} {name : Text} {child leaf : Node} {names : List Text}
    (hentry : (name, child) ∈ entries) (hchild : Holds child names leaf) :
    Holds (.directory entries) (name :: names) leaf

/-- In every directory the entries have names, and no two have the same one. -/
inductive WellFormed : Node → Prop where
  | file (content : List UInt8) : WellFormed (.file content)
  | sealed : WellFormed .sealed
  | link (target : Text) : WellFormed (.link target)
  | directory {entries : List (Text × Node)} (hdistinct : (entries.map (·.1)).Nodup)
    (hnames : ∀ e ∈ entries, IsName e.1) (hchildren : ∀ e ∈ entries, WellFormed e.2) :
    WellFormed (.directory entries)

variable {node leaf : Node} {name : Text} {names : List Text}

theorem WellFormed.of_holds (h : node.WellFormed) (hholds : node.Holds names leaf) :
    leaf.WellFormed ∧ ∀ n ∈ names, IsName n := by
  induction hholds with
  | here => exact ⟨h, fun n hn => absurd hn List.not_mem_nil⟩
  | under hentry _ ih =>
    cases h with
    | directory _ hnames hchildren =>
      obtain ⟨hleaf, hrest⟩ := ih (hchildren _ hentry)
      exact ⟨hleaf, List.forall_mem_cons.mpr ⟨hnames _ hentry, hrest⟩⟩

theorem at?_cons_eq_some_iff : node.at? (name :: names) = some leaf ↔
    ∃ child, node.entries.lookup name = some child ∧ child.at? names = some leaf :=
  Option.bind_eq_some_iff

/-- What stands at a place is below the node. -/
theorem holds_of_at? (h : node.at? names = some leaf) : node.Holds names leaf := by
  induction names generalizing node with
  | nil =>
    cases h
    exact .here _
  | cons name names ih =>
    obtain ⟨child, hchild, hrest⟩ := at?_cons_eq_some_iff.mp h
    obtain ⟨before, after, hentries, -⟩ := List.lookup_eq_some_iff.mp hchild
    have hmem : (name, child) ∈ node.entries := by simp [hentries]
    cases node with
    | directory entries => exact .under hmem (ih hrest)
    | _ => cases hmem

theorem isDirectory_iff : node.isDirectory = true ↔ ∃ entries, node = .directory entries := by
  cases node <;> simp [isDirectory]

/-- Whatever a directory is below is a directory. -/
theorem isDirectory_of_at? (h : node.at? names = some leaf) (hleaf : leaf.isDirectory = true) :
    node.isDirectory = true := by
  cases holds_of_at? h with
  | here => exact hleaf
  | under => rfl

end Node

/-! ## Absolute paths -/

theorem descend_eq {path : Text} {names : List Text} (hpath : path ≠ [])
    (hslash : path.getLast? ≠ some '/') (hnames : ∀ n ∈ names, IsName n) :
    descend path names = path ++ names.flatMap ('/' :: ·) := by
  induction names generalizing path with
  | nil => exact (List.append_nil path).symm
  | cons name names ih =>
    obtain ⟨hname, hnames⟩ := List.forall_mem_cons.mp hnames
    have hchild : child path name = path ++ '/' :: name := by
      rw [child, if_neg (by simp [hpath, hslash])]
    have hlast : (child path name).getLast? ≠ some '/' := by
      rw [hchild, List.getLast?_append, List.getLast?_cons_of_ne_nil hname.ne_nil]
      intro h
      obtain ⟨start, rfl⟩ := List.getLast?_eq_some_iff.mp (by simpa [hname.ne_nil] using h)
      exact hname.slash_not_mem (by simp)
    rw [descend_cons, ih (child_ne_nil hpath) hlast hnames, hchild, List.flatMap_cons,
      List.append_assoc]

/-- The absolute path of a place leads to it from the root. -/
theorem absolute_eq_descend {names : List Text} (h : ∀ n ∈ names, IsName n) :
    absolute names = descend ['/'] names := by
  cases names with
  | nil => rfl
  | cons name names =>
    obtain ⟨hname, hnames⟩ := List.forall_mem_cons.mp h
    have hchild : child ['/'] name = '/' :: name := rfl
    have hlast : ('/' :: name).getLast? ≠ some '/' := by
      rw [List.getLast?_cons_of_ne_nil hname.ne_nil]
      intro h
      obtain ⟨start, rfl⟩ := List.getLast?_eq_some_iff.mp h
      exact hname.slash_not_mem (by simp)
    rw [descend_cons, hchild, descend_eq (List.cons_ne_nil _ _) hlast hnames]
    rfl

theorem isAbsolute_absolute (names : List Text) : isAbsolute (absolute names) = true := by
  cases names <;> rfl

theorem components_absolute {names : List Text} (h : ∀ n ∈ names, IsName n) :
    components (absolute names) = .root :: names.map .name := by
  rw [absolute_eq_descend h, components_descend (List.cons_ne_nil _ _) h]
  rfl

theorem filterMap_component? {names : List Text} (h : ∀ n ∈ names, IsName n) :
    names.filterMap component? = names.map .name := by
  induction names with
  | nil => rfl
  | cons name names ih =>
    obtain ⟨hname, hnames⟩ := List.forall_mem_cons.mp h
    rw [List.filterMap_cons_some hname.component?, ih hnames, List.map_cons]

theorem component?_ne_root (part : Text) : component? part ≠ some .root := by
  unfold component?
  split
  · exact nofun
  · split <;> exact nofun

theorem components_eq_root_cons {path : Text} {cs : List Component}
    (h : components path = .root :: cs) :
    isAbsolute path = true ∧ (parts path).filterMap component? = cs := by
  unfold components at h
  split at h
  · rename_i habsolute
    exact ⟨habsolute, (List.cons.inj h).2⟩
  · split at h
    · cases (List.cons.inj h).1
    · have hroot : Component.root ∈ (parts path).filterMap component? := by
        rw [List.nil_append] at h
        rw [h]
        exact List.mem_cons_self
      obtain ⟨part, -, hpart⟩ := List.mem_filterMap.mp hroot
      exact absurd hpart (component?_ne_root part)

/-! ## Look-ups -/

namespace FileSystem
variable {fs : FileSystem} {place : List Text} {node : Node}

theorem isDirectory_directoryAt (place : List Text) :
    (fs.directoryAt place).isDirectory = true := by
  rw [directoryAt]
  split <;> rfl

/-- A directory that stands at a place is the one to start in there. -/
theorem directoryAt_of_at? (h : fs.root.at? place = some node) (hnode : node.isDirectory = true) :
    fs.directoryAt place = node := by
  obtain ⟨entries, rfl⟩ := Node.isDirectory_iff.mp hnode
  rw [directoryAt, h]

theorem directoryAt_of_removed (h : fs.hasDirectory place = false) :
    fs.directoryAt place = .directory [] := by
  rw [directoryAt]
  split
  · rename_i hat
    rw [hasDirectory, hat] at h
    cases h
  · rfl

/-- A node is at a place: it stands there, or a directory was removed from there. -/
inductive Stands (fs : FileSystem) (place : List Text) : Node → Prop where
  | here {node : Node} (h : fs.root.at? place = some node) : Stands fs place node
  | removed (h : fs.hasDirectory place = false) : Stands fs place (.directory [])

theorem stands_directoryAt (place : List Text) : fs.Stands place (fs.directoryAt place) := by
  cases h : fs.hasDirectory place with
  | true =>
    obtain ⟨node, hat, hnode⟩ := (Option.any_eq_true _ _).mp h
    rw [directoryAt_of_at? hat hnode]
    exact .here hat
  | false =>
    rw [directoryAt_of_removed h]
    exact .removed h

/-- What has something below it was not removed. -/
theorem Stands.at?_of_holds {name : Text} {names : List Text} {leaf : Node}
    (h : fs.Stands place node) (hholds : node.Holds (name :: names) leaf) :
    fs.root.at? place = some node := by
  cases h with
  | here h => exact h
  | removed _ =>
    cases hholds with
    | under hentry => cases hentry

theorem Stands.wellFormed (h : fs.Stands place node) (hfs : fs.root.WellFormed) :
    node.WellFormed := by
  cases h with
  | here h => exact (hfs.of_holds (Node.holds_of_at? h)).1
  | removed _ => exact .directory .nil nofun nofun

/-- **Names lead to their place**, whatever idle parts stand between them. -/
theorem advance_append {place names ps rest : List Text} {node next : Node}
    (hps : ps.filterMap component? = names.map .name) (hnames : ∀ n ∈ names, IsName n)
    (hat : node.at? names = some next) (hnext : next.isDirectory = true) :
    fs.advance place node (ps ++ rest) = fs.advance (place ++ names) next rest := by
  induction ps generalizing place node names with
  | nil =>
    cases names with
    | nil =>
      cases hat
      rw [List.append_nil]
      rfl
    | cons name names => cases hps
  | cons part ps ih =>
    have hnode := Node.isDirectory_of_at? hat hnext
    rw [List.cons_append, advance, hnode, if_neg (by decide)]
    cases hpart : component? part with
    | none =>
      rw [List.filterMap_cons_none hpart] at hps
      rw [if_pos (isIdle_iff.mpr hpart)]
      exact ih hps hnames hat
    | some c =>
      rw [List.filterMap_cons_some hpart] at hps
      cases names with
      | nil => cases hps
      | cons name names =>
        obtain ⟨rfl, hrest⟩ := List.cons.inj hps
        obtain rfl := eq_of_component?_eq_name hpart
        obtain ⟨hname, hnames⟩ := List.forall_mem_cons.mp hnames
        obtain ⟨child, hchild, hat⟩ := Node.at?_cons_eq_some_iff.mp hat
        have hidle : isIdle part ≠ true := by
          rw [ne_eq, isIdle_iff, hpart]
          exact nofun
        rw [if_neg hidle, if_neg hname.ne_up, if_neg (Nat.not_lt.mpr hname.length_le), hchild]
        -- the entry is above a directory, so it is no link
        obtain ⟨entries, rfl⟩ := Node.isDirectory_iff.mp (Node.isDirectory_of_at? hat hnext)
        refine (ih hrest hnames hat).trans ?_
        rw [List.append_assoc, List.singleton_append]

/-- What is looked up depends on where the parts lead as far as no link is met. -/
theorem follow_congr {links : Nat} {d e rest rest' : List Text}
    (h : fs.advance d (fs.directoryAt d) rest = fs.advance e (fs.directoryAt e) rest') :
    fs.follow links d rest = fs.follow links e rest' := by
  rw [follow, follow]
  simp only [h]

/-- A path of a place that names lead to has no characters but those of the names, slashes and
dots. -/
theorem nul_not_mem {path : Text} {names : List Text}
    (hparts : (parts path).filterMap component? = names.map .name)
    (hnames : ∀ n ∈ names, IsName n) : '\x00' ∉ path := by
  intro hnul
  obtain ⟨part, hpart, hnul⟩ := Text.exists_mem_splitAt hnul (by decide : '\x00' ≠ '/')
  cases hc : component? part with
  | none =>
    rw [← isIdle_iff, isIdle, Bool.or_eq_true, List.isEmpty_iff, beq_iff_eq] at hc
    rcases hc with rfl | rfl
    · cases hnul
    · exact absurd hnul (by decide)
  | some c =>
    have hmem : c ∈ names.map .name := hparts ▸ List.mem_filterMap.mpr ⟨part, hpart, hc⟩
    obtain ⟨name, hname, rfl⟩ := List.mem_map.mp hmem
    obtain rfl := eq_of_component?_eq_name hc
    exact (hnames part hname).nul_not_mem hnul

/-- An advance from what stands at a place arrives at such a node. -/
theorem stands_of_advance {rest p : List Text} {n : Node} (hplace : fs.Stands place node)
    (h : fs.advance place node rest = .arrived p n) : fs.Stands p n := by
  fun_induction fs.advance place node rest with
  | case1 =>
    cases h
    exact hplace
  | case3 _ _ _ _ _ _ ih => exact ih hplace h
  | case4 _ _ _ _ _ ih => exact ih (stands_directoryAt _) h
  | case9 _ _ _ _ _ _ _ _ next _ hnext ih =>
    refine ih ?_ h
    cases hplace with
    | here hplace =>
      refine .here ?_
      rw [Node.at?, List.foldlM_append]
      exact Option.bind_eq_some_iff.mpr
        ⟨_, hplace, Option.bind_eq_some_iff.mpr ⟨next, hnext, rfl⟩⟩
    | removed _ => cases hnext
  | _ => cases h

/-- Links on the way lead to such a node as well. -/
theorem stands_of_follow {links : Nat} {directory rest : List Text}
    (h : fs.follow links directory rest = .arrived place node) : fs.Stands place node := by
  fun_induction fs.follow links directory rest with
  | case1 => cases h
  | case2 _ _ _ _ _ _ _ ih => exact ih h
  | case3 => exact stands_of_advance (stands_directoryAt _) h

/-- **What a path leads to stands at its place.** -/
theorem stands_of_locate {path : Text} (h : fs.locate path = .ok (place, node)) :
    fs.Stands place node := by
  unfold locate at h
  split at h
  · rename_i p n hstop
    cases h
    unfold stopAt at hstop
    split at hstop
    · cases hstop
    · split at hstop
      · cases hstop
      · exact stands_of_follow hstop
  · cases h
  · cases h

/-- The path `.` leads to the working directory, even if that was removed. -/
theorem locate_here : fs.locate ['.'] = .ok (fs.working, fs.directoryAt fs.working) := by
  have hstop : fs.stopAt ['.'] = fs.follow linkLimit fs.working [['.']] := rfl
  have harrived : fs.advance fs.working (fs.directoryAt fs.working) [['.']] =
      .arrived fs.working (fs.directoryAt fs.working) := by
    rw [advance, isDirectory_directoryAt]
    rfl
  rw [locate, hstop, follow, harrived]

section Working
variable (hnode : fs.root.at? fs.working = some node)
  (hdirectory : node.isDirectory = true) (hworking : ∀ n ∈ fs.working, IsName n)
include hnode hdirectory hworking

/-- **An absolute path and a relative one that go on by the same names** from the working directory
lead to the same, links on the way included. -/
theorem stopAt_eq {p q : Text} {ps qs names : List Text} (hp : isAbsolute p = true)
    (hq : isAbsolute q = false) (hne : q ≠ []) (hpparts : parts p = ps ++ names)
    (hqparts : parts q = qs ++ names) (hps : ps.filterMap component? = fs.working.map .name)
    (hqs : qs.filterMap component? = []) (hnames : ∀ n ∈ names, IsName n) :
    fs.stopAt p = fs.stopAt q := by
  -- neither path is refused for how it is written
  have hpne : p ≠ [] := by
    rintro rfl
    cases hp
  have hpnul : '\x00' ∉ p := by
    refine nul_not_mem ?_ (fun n hn => (List.mem_append.mp hn).elim (hworking n) (hnames n))
    rw [hpparts, List.filterMap_append, hps, filterMap_component? hnames, List.map_append]
  have hqnul : '\x00' ∉ q := by
    refine nul_not_mem ?_ hnames
    rw [hqparts, List.filterMap_append, hqs, filterMap_component? hnames, List.nil_append]
  rw [stopAt, stopAt, if_neg (by simp [hpne]), if_neg (by simp [hpnul]), if_neg (by simp [hne]),
    if_neg (by simp [hqnul]), startOf, hp, if_pos rfl, startOf, hq, if_neg Bool.false_ne_true,
    hpparts, hqparts]
  -- one starts at the root, the other in the working directory; there the same names are left
  refine follow_congr ?_
  have hhere : node.at? [] = some node := rfl
  rw [directoryAt_of_at? rfl (Node.isDirectory_of_at? hnode hdirectory),
    directoryAt_of_at? hnode hdirectory, advance_append hps hworking hnode hdirectory,
    advance_append hqs (fun _ h => absurd h List.not_mem_nil) hhere hdirectory, List.nil_append,
    List.append_nil]

/-- An entry of the working directory is found by any absolute path of that directory. -/
theorem stopAt_child {path name : Text} (hpath : samePath path (absolute fs.working) = true)
    (hname : IsName name) : fs.stopAt (child path name) = fs.stopAt name := by
  rw [samePath, beq_iff_eq, components_absolute hworking] at hpath
  obtain ⟨habsolute, hparts⟩ := components_eq_root_cons hpath
  have hne : path ≠ [] := by
    rintro rfl
    cases habsolute
  obtain ⟨ps, hchild, -, hps⟩ := exists_parts_child hne hname.slash_not_mem
  have hname' : parts name = [] ++ [name] := parts_of_not_mem hname.slash_not_mem
  refine stopAt_eq hnode hdirectory hworking ?_ ?_ hname.ne_nil hchild hname' (hps.trans hparts) rfl
    (by simpa using hname)
  · rw [isAbsolute_of_starts hne (prefix_child path name), habsolute]
  · exact isAbsolute_of_slash_not_mem hname.slash_not_mem

/-- What stands below the working directory is found by the absolute path of its place. -/
theorem stopAt_absolute {names : List Text} (hne : names ≠ []) (hnames : ∀ n ∈ names, IsName n) :
    fs.stopAt (absolute (fs.working ++ names)) = fs.stopAt (descend ['.'] names) := by
  have hslash : ∀ n ∈ fs.working ++ names, '/' ∉ n := fun n hn =>
    (List.mem_append.mp hn).elim (fun h => (hworking n h).slash_not_mem)
      fun h => (hnames n h).slash_not_mem
  have habsolute : parts (absolute (fs.working ++ names)) = ([] :: fs.working) ++ names := by
    rw [absolute, if_neg (by simp [hne])]
    exact parts_append_flatMap hslash []
  have hdescend : descend ['.'] names = ['.'] ++ names.flatMap ('/' :: ·) :=
    descend_eq (List.cons_ne_nil _ _) (by decide) hnames
  have hrelative : parts (descend ['.'] names) = [['.']] ++ names := by
    rw [hdescend, parts_append_flatMap fun n hn => (hnames n hn).slash_not_mem]
    rfl
  refine stopAt_eq hnode hdirectory hworking (isAbsolute_absolute _) ?_ ?_ habsolute hrelative ?_
    rfl hnames
  · rw [hdescend]
    rfl
  · rw [hdescend]
    exact List.cons_ne_nil _ _
  · rw [List.filterMap_cons, filterMap_component? hworking]
    rfl

end Working

end FileSystem
end GraphLint.Files
