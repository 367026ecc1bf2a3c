import GraphLint.Files.Tree
import Mathlib.Data.List.Basic
/-! # Paths that names lead to

A directory gives each of its entries a name (`IsName`), and going down from a path by names adds
one component for each of them and nothing else (`components_descend`).  It does not matter how the
path is written that one goes down from: with a slash at its end or without one.  The names of a path
below the working directory can be read off it again (`namesOn_descend`). -/
namespace GraphLint.Text

/-- A text that holds a separator is cut on both sides of it. -/
theorem splitAt_append_cons (separator : Char) (s t : Text) :
    splitAt separator (s ++ separator :: t) = splitAt separator s ++ splitAt separator t := by
  induction s with
  | nil => simp [splitAt]
  | cons c s ih =>
    rw [List.cons_append, splitAt, splitAt, ih]
    split
    · rfl
    · cases h : splitAt separator s with
      | nil => exact absurd h (splitAt_ne_nil separator s)
      | cons part rest => rfl

theorem splitAt_of_not_mem {separator : Char} {t : Text} (h : separator ∉ t) :
    splitAt separator t = [t] := by
  induction t with
  | nil => rfl
  | cons c t ih =>
    obtain ⟨hc, ht⟩ := List.ne_and_not_mem_of_not_mem_cons h
    rw [splitAt, if_neg (Ne.symm hc), ih ht]

/-- A character that is no separator is a character of a part. -/
theorem exists_mem_splitAt {separator c : Char} {t : Text} (hc : c ∈ t) (hne : c ≠ separator) :
    ∃ part ∈ splitAt separator t, c ∈ part := by
  induction t with
  | nil => cases hc
  | cons d t ih =>
    rw [splitAt]
    split
    · rename_i hd
      rcases List.mem_cons.mp hc with rfl | hc
      · exact absurd hd hne
      · obtain ⟨part, hpart, hc⟩ := ih hc
        exact ⟨part, List.mem_cons_of_mem _ hpart, hc⟩
    · cases h : splitAt separator t with
      | nil => exact absurd h (splitAt_ne_nil separator t)
      | cons first rest =>
        rcases List.mem_cons.mp hc with rfl | hc
        · exact ⟨_, List.mem_cons_self, List.mem_cons_self⟩
        · obtain ⟨part, hpart, hc⟩ := ih hc
          rw [h] at hpart
          rcases List.mem_cons.mp hpart with rfl | hpart
          · exact ⟨_, List.mem_cons_self, List.mem_cons_of_mem _ hc⟩
          · exact ⟨part, List.mem_cons_of_mem _ hpart, hc⟩

end GraphLint.Text

namespace GraphLint.Files

/-! ## Parts -/

theorem parts_append_slash (s t : Text) : parts (s ++ '/' :: t) = parts s ++ parts t :=
  Text.splitAt_append_cons '/' s t

theorem parts_of_not_mem {t : Text} (h : '/' ∉ t) : parts t = [t] := Text.splitAt_of_not_mem h

/-- Behind a path every name is a part. -/
theorem parts_append_flatMap {names : List Text} (h : ∀ n ∈ names, '/' ∉ n) (path : Text) :
    parts (path ++ names.flatMap ('/' :: ·)) = parts path ++ names := by
  induction names generalizing path with
  | nil => rw [List.flatMap_nil, List.append_nil, List.append_nil]
  | cons name names ih =>
    obtain ⟨hname, hnames⟩ := List.forall_mem_cons.mp h
    rw [List.flatMap_cons, ← List.append_assoc, ih hnames, parts_append_slash,
      parts_of_not_mem hname, List.append_assoc, List.singleton_append]

theorem isAbsolute_of_slash_not_mem {path : Text} (h : '/' ∉ path) : isAbsolute path = false := by
  rw [Bool.eq_false_iff]
  intro habsolute
  obtain ⟨rest, rfl⟩ := List.head?_eq_some_iff.mp (beq_iff_eq.mp habsolute)
  exact h List.mem_cons_self

theorem exists_parts_eq_cons (t : Text) : ∃ first rest, parts t = first :: rest :=
  List.exists_cons_of_ne_nil (Text.splitAt_ne_nil '/' t)

theorem suffix_joinParts (init : List Text) (name : Text) : name <:+ joinParts (init ++ [name]) := by
  induction init with
  | nil => exact List.suffix_rfl
  | cons first init ih =>
    have hrest : init ++ [name] ≠ [] := List.append_ne_nil_of_right_ne_nil init (List.cons_ne_nil _ _)
    rw [joinParts, List.cons_append, Text.joinWith]
    · exact ih.trans ((List.suffix_cons '/' _).trans (List.suffix_append first _))
    · exact hrest

/-- A path ends in its last part. -/
theorem suffix_of_getLast?_parts {path name : Text} (h : (parts path).getLast? = some name) :
    name <:+ path := by
  obtain ⟨init, hinit⟩ := List.getLast?_eq_some_iff.mp h
  have hsuffix := suffix_joinParts init name
  rwa [← hinit, joinParts, parts, Text.joinWith_splitAt] at hsuffix

/-! ## Names -/

/-- What the entries of a directory may be called. -/
structure IsName (name : Text) : Prop where
  ne_nil : name ≠ []
  ne_here : name ≠ ['.']
  ne_up : name ≠ ['.', '.']
  slash_not_mem : '/' ∉ name
  nul_not_mem : '\x00' ∉ name
  length_le : (Text.encode name).length ≤ FileSystem.nameLimit

theorem isName_iff {name : Text} : IsName name ↔ name ≠ [] ∧ name ≠ ['.'] ∧ name ≠ ['.', '.'] ∧
    '/' ∉ name ∧ '\x00' ∉ name ∧ (Text.encode name).length ≤ FileSystem.nameLimit :=
  ⟨fun h => ⟨h.ne_nil, h.ne_here, h.ne_up, h.slash_not_mem, h.nul_not_mem, h.length_le⟩,
    fun ⟨hnil, hhere, hup, hslash, hnul, hlength⟩ => ⟨hnil, hhere, hup, hslash, hnul, hlength⟩⟩

instance : DecidablePred IsName := fun _ => decidable_of_iff _ isName_iff.symm

theorem IsName.component? {name : Text} (h : IsName name) :
    Files.component? name = some (.name name) := by
  rw [Files.component?, if_neg (not_or.mpr ⟨h.ne_nil, h.ne_here⟩), if_neg h.ne_up]

/-- The idle parts are those that stand for no component. -/
theorem isIdle_iff {part : Text} : isIdle part = true ↔ component? part = none := by
  rw [isIdle, Bool.or_eq_true, List.isEmpty_iff, beq_iff_eq, component?]
  constructor
  · intro h
    rw [if_pos h]
  · intro h
    by_cases hidle : part = [] ∨ part = ['.']
    · exact hidle
    · rw [if_neg hidle] at h
      split at h <;> cases h

theorem eq_of_component?_eq_name {part name : Text} (h : component? part = some (.name name)) :
    part = name := by
  unfold component? at h
  split at h
  · cases h
  · split at h
    · cases h
    · cases h
      rfl

/-! ## Going down -/

/-- What a path starts with that leads below a path: the path, and a slash unless there is one. -/
theorem child_eq (directory name : Text) : child directory name = child directory [] ++ name := by
  unfold child
  split
  · rw [List.append_nil]
  · rw [List.append_assoc]
    rfl

theorem prefix_child (directory name : Text) : directory <+: child directory name := by
  unfold child
  split <;> exact List.prefix_append ..

/-- What stands below a path is set off from it by a slash. -/
theorem exists_child_eq {directory : Text} (h : directory ≠ []) :
    ∃ start, ∀ name, child directory name = start ++ '/' :: name := by
  by_cases hslash : directory.getLast? = some '/'
  · obtain ⟨start, rfl⟩ := List.getLast?_eq_some_iff.mp hslash
    exact ⟨start, fun name => by simp [child]⟩
  · exact ⟨directory, fun name => by rw [child, if_neg (by simp [h, hslash])]⟩

/-- What a path ends in, if it has no slash, is the end of the last name. -/
theorem suffix_of_suffix_child {directory name s : Text} (hdirectory : directory ≠ [])
    (hs : '/' ∉ s) (h : s <:+ child directory name) : s <:+ name := by
  obtain ⟨start, hstart⟩ := exists_child_eq hdirectory
  rw [hstart name] at h
  rcases List.suffix_or_suffix_of_suffix h (List.suffix_append start ('/' :: name)) with h | h
  · rcases List.suffix_cons_iff.mp h with rfl | h
    · exact absurd List.mem_cons_self hs
    · exact h
  · exact absurd (h.mem List.mem_cons_self) hs

/-- The path below a path that names lead to. -/
def descend (path : Text) (names : List Text) : Text := names.foldl child path

theorem descend_cons (path name : Text) (names : List Text) :
    descend path (name :: names) = descend (child path name) names := rfl

theorem prefix_descend (path : Text) (names : List Text) : path <+: descend path names := by
  induction names generalizing path with
  | nil => exact List.prefix_rfl
  | cons name names ih => exact (prefix_child path name).trans (ih _)

section
variable {directory name : Text}

theorem child_ne_nil (h : directory ≠ []) : child directory name ≠ [] := by
  obtain ⟨rest, hrest⟩ := prefix_child directory name
  rw [← hrest]
  exact List.append_ne_nil_of_left_ne_nil h rest

/-- The name is a part of its own, and the parts before it stand for what the path of the directory
stands for. -/
theorem exists_parts_child (hdirectory : directory ≠ []) (hname : '/' ∉ name) :
    ∃ ps, parts (child directory name) = ps ++ [name] ∧ ps.head? = (parts directory).head? ∧
      ps.filterMap component? = (parts directory).filterMap component? := by
  by_cases hslash : directory.getLast? = some '/'
  · obtain ⟨start, rfl⟩ := List.getLast?_eq_some_iff.mp hslash
    refine ⟨parts start, ?_, ?_, ?_⟩
    · rw [child, if_pos (by simp), List.append_assoc, List.singleton_append, parts_append_slash,
        parts_of_not_mem hname]
    · obtain ⟨first, rest, hfirst⟩ := exists_parts_eq_cons start
      rw [parts_append_slash, hfirst]
      rfl
    · rw [parts_append_slash, List.filterMap_append]
      exact (List.append_nil _).symm
  · refine ⟨parts directory, ?_, rfl, rfl⟩
    rw [child, if_neg (by simp [hdirectory, hslash]), parts_append_slash, parts_of_not_mem hname]

theorem isAbsolute_of_starts {path : Text} (hdirectory : directory ≠ []) (h : directory <+: path) :
    isAbsolute path = isAbsolute directory := by
  obtain ⟨rest, rfl⟩ := h
  obtain ⟨c, tail, rfl⟩ := List.exists_cons_of_ne_nil hdirectory
  rfl

/-- **A name adds one component.** -/
theorem components_child (hdirectory : directory ≠ []) (hname : IsName name) :
    components (child directory name) = components directory ++ [.name name] := by
  obtain ⟨ps, hparts, hhead, hps⟩ := exists_parts_child hdirectory hname.slash_not_mem
  obtain ⟨first, rest, hfirst⟩ := exists_parts_eq_cons directory
  have hstart : (ps ++ [name]).head? = (parts directory).head? := by
    rw [List.head?_append, hhead, hfirst]
    rfl
  have hlast : [name].filterMap component? = [.name name] := by
    rw [List.filterMap_cons, hname.component?]
    rfl
  simp only [components, isAbsolute_of_starts hdirectory (prefix_child directory name), hparts,
    hstart, List.filterMap_append, hps, hlast, List.append_assoc]

/-- A slash at the end does not change where a path leads. -/
theorem components_append_slash (hdirectory : directory ≠ []) :
    components (directory ++ ['/']) = components directory := by
  obtain ⟨first, rest, hfirst⟩ := exists_parts_eq_cons directory
  have hparts : parts (directory ++ ['/']) = first :: (rest ++ [[]]) := by
    rw [parts_append_slash, hfirst]
    rfl
  have hlast : (first :: (rest ++ [[]])).filterMap component? =
      (first :: rest).filterMap component? := by
    rw [← List.cons_append, List.filterMap_append]
    exact List.append_nil _
  simp only [components, isAbsolute_of_starts hdirectory (List.prefix_append directory ['/']),
    hparts, hfirst, hlast, List.head?_cons]

end

/-- **Names add a component each.** -/
theorem components_descend {path : Text} {names : List Text} (hpath : path ≠ [])
    (hnames : ∀ n ∈ names, IsName n) :
    components (descend path names) = components path ++ names.map .name := by
  induction names generalizing path with
  | nil => exact (List.append_nil _).symm
  | cons name names ih =>
    obtain ⟨hname, hnames⟩ := List.forall_mem_cons.mp hnames
    rw [descend_cons, ih (child_ne_nil hpath) hnames, components_child hpath hname,
      List.append_assoc]
    rfl

/-- The names on a path. -/
def namesOn (path : Text) : List Text := (parts path).filter fun part => !isIdle part

theorem filter_isIdle_of_filterMap {ps names : List Text}
    (h : ps.filterMap component? = names.map .name) :
    ps.filter (fun part => !isIdle part) = names := by
  induction ps generalizing names with
  | nil => exact (List.map_eq_nil_iff.mp h.symm).symm
  | cons part ps ih =>
    cases hpart : component? part with
    | none =>
      rw [List.filterMap_cons_none hpart] at h
      rw [List.filter_cons_of_neg (by simp [isIdle_iff.mpr hpart]), ih h]
    | some c =>
      rw [List.filterMap_cons_some hpart] at h
      obtain ⟨name, rest, rfl, rfl, hrest⟩ := List.map_eq_cons_iff.mp h.symm
      have hidle : isIdle part = false := by
        rw [Bool.eq_false_iff, ne_eq, isIdle_iff, hpart]
        exact nofun
      rw [List.filter_cons_of_pos (by simp [hidle]), ih hrest.symm, eq_of_component?_eq_name hpart]

theorem filterMap_parts_descend {path : Text} {names : List Text} (hpath : path ≠ [])
    (hnames : ∀ n ∈ names, IsName n) :
    (parts (descend path names)).filterMap component? =
      (parts path).filterMap component? ++ names.map .name := by
  induction names generalizing path with
  | nil => exact (List.append_nil _).symm
  | cons name names ih =>
    obtain ⟨hname, hnames⟩ := List.forall_mem_cons.mp hnames
    obtain ⟨ps, hparts, -, hps⟩ := exists_parts_child hpath hname.slash_not_mem
    rw [descend_cons, ih (child_ne_nil hpath) hnames, hparts, List.filterMap_append, hps,
      List.filterMap_cons, hname.component?, List.append_assoc]
    rfl

/-- The names on a relative path are those that it goes down by. -/
theorem namesOn_descend {names : List Text} (h : ∀ n ∈ names, IsName n) :
    namesOn (descend ['.'] names) = names :=
  filter_isIdle_of_filterMap (filterMap_parts_descend (List.cons_ne_nil _ _) h)

end GraphLint.Files
