import GraphLint.Proofs.Command.Check
import GraphLint.Proofs.Files.Below
import GraphLint.Proofs.Files.Walk
import GraphLint.Proofs.Project.Outcome
import Mathlib.Data.Finset.Card
/-! # How many files a report is about

A report counts the paths of files, up to idle parts (`fileCount_eq`), but its entries show names, and
the name of a file is its path seen from the base, with slashes for backslashes.  So the count is that
of the names as long as paths and names settle each other.  Under an absolute base, and where no path
has a backslash or is written in two ways, the two counts agree exactly if no finding names the file of
another one by what that one looks like from the base (`CountsPaths.eq_iff`): a file that is named by
its absolute path and by its path relative to the base is counted twice, although the report has one
name for it.  That takes a check of several paths: below one path all files are named in one way
(`fileCount_of_findings`). -/
namespace GraphLint.Report
open Files

/-! ## Different values -/

/-- How many different values a list has. -/
def distinct {α : Type} [DecidableEq α] (l : List α) : Nat := l.dedup.length

section
variable {α β γ : Type} [DecidableEq β] [DecidableEq γ] {f : α → β} {g : α → γ} {l : List α}

theorem distinct_eq_card (l : List β) : distinct l = l.toFinset.card := (List.card_toFinset l).symm

/-- Values that settle others are as many as the pairs of both. -/
theorem distinct_map_pair (h : ∀ a ∈ l, ∀ b ∈ l, f a = f b → g a = g b) :
    distinct (l.map f) = distinct (l.map fun a => (f a, g a)) := by
  have hinjective : Set.InjOn Prod.fst ((l.map fun a => (f a, g a)).toFinset : Set (β × γ)) := by
    intro x hx y hy hxy
    rw [Finset.mem_coe, List.mem_toFinset, List.mem_map] at hx hy
    obtain ⟨a, ha, rfl⟩ := hx
    obtain ⟨b, hb, rfl⟩ := hy
    exact Prod.ext hxy (h a ha b hb hxy)
  rw [distinct_eq_card, distinct_eq_card, ← Finset.card_image_of_injOn hinjective]
  congr 1
  ext b
  simp

/-- **Values that others settle are not more than these**, and as many exactly if they settle the others
in turn. -/
theorem distinct_map_le (h : ∀ a ∈ l, ∀ b ∈ l, f a = f b → g a = g b) :
    distinct (l.map g) ≤ distinct (l.map f) ∧
      (distinct (l.map g) = distinct (l.map f) ↔ ∀ a ∈ l, ∀ b ∈ l, g a = g b → f a = f b) := by
  have himage : (l.map g).toFinset = (l.map fun a => (f a, g a)).toFinset.image Prod.snd := by
    ext c
    simp
  rw [distinct_map_pair h, distinct_eq_card, distinct_eq_card, himage]
  refine ⟨Finset.card_image_le, Finset.card_image_iff.trans ?_⟩
  constructor
  · intro hinjective a ha b hb hab
    have hmem : ∀ a ∈ l, (f a, g a) ∈
        ((l.map fun a => (f a, g a)).toFinset : Set (β × γ)) := by
      intro a ha
      rw [Finset.mem_coe, List.mem_toFinset]
      exact List.mem_map_of_mem ha
    exact congrArg Prod.fst (hinjective (hmem a ha) (hmem b hb) hab)
  · intro hsettles x hx y hy hxy
    rw [Finset.mem_coe, List.mem_toFinset, List.mem_map] at hx hy
    obtain ⟨a, ha, rfl⟩ := hx
    obtain ⟨b, hb, rfl⟩ := hy
    exact Prod.ext (hsettles a ha b hb hxy) hxy

end

/-! ## Paths and names -/

/-- **The count is the number of paths, up to idle parts.** -/
theorem fileCount_eq (found : List FileDiagnostic) :
    fileCount found = distinct (found.map (components ·.file)) := by
  induction found with
  | nil => rfl
  | cons f rest ih =>
    have hagain : rest.any (samePath f.file ·.file) = true ↔
        components f.file ∈ rest.map (components ·.file) := by
      simp only [samePath, List.any_eq_true, beq_iff_eq, List.mem_map, @eq_comm _ (components f.file)]
    rw [fileCount, ih, List.map_cons, distinct, distinct]
    by_cases h : components f.file ∈ rest.map (components ·.file)
    · rw [if_pos (hagain.mpr h), List.dedup_cons_of_mem h, Nat.zero_add]
    · rw [if_neg (mt hagain.mp h), List.dedup_cons_of_notMem h, List.length_cons, Nat.add_comm]

/-- The names of files in the entries of a report. -/
def fileNames (report : Json) : List String :=
  match report.field? "diagnostics" with
  | some (.array items) => items.filterMap fun item => (item.field? "file").bind Json.string?
  | _ => []

theorem fileNames_toJson (base : Text) (found : List FileDiagnostic) :
    fileNames (toJson base found) = found.map fun f => String.ofList (fileName base f.file) := by
  have hitem : ∀ f : FileDiagnostic, ((entry base f).field? "file").bind Json.string? =
      some (String.ofList (fileName base f.file)) := fun _ => rfl
  have hitems : (toJson base found).field? "diagnostics" =
      some (.array (found.map (entry base))) := rfl
  simp only [fileNames, hitems, List.filterMap_map, Function.comp_def, hitem,
    List.filterMap_eq_map']

/-- The name of a file whose path has no backslash is its path seen from the base. -/
theorem fileName_eq_relativeTo {base path : Text} (hbase : isAbsolute base = true)
    (hpath : '\\' ∉ path) : fileName base path = relativeTo base path := by
  have hnone : '\\' ∉ relativeTo base path := by
    unfold relativeTo
    cases h : below? base path with
    | none => exact hpath
    | some rest =>
      intro hmem
      rcases (isRest_of_isAbsolute hbase h).characters _ hmem with hslash | hmem
      · exact absurd hslash (by decide)
      · exact hpath hmem
  refine (List.map_congr_left fun c hc => if_neg ?_).trans (List.map_id _)
  rintro rfl
  exact hnone hc

/-- Whether findings about the same file, as far as the parts of its path that are not idle go, also
show the same name. -/
def PathsSettleNames (base : Text) (found : List FileDiagnostic) : Prop :=
  ∀ f ∈ found, ∀ g ∈ found, samePath f.file g.file = true →
    fileName base f.file = fileName base g.file

/-- Whether findings that show the same name are about the same file, as far as the parts of its path
that are not idle go. -/
def NamesSettlePaths (base : Text) (found : List FileDiagnostic) : Prop :=
  ∀ f ∈ found, ∀ g ∈ found, fileName base f.file = fileName base g.file →
    samePath f.file g.file = true

/-- How the count of files in the report of findings goes with the names in its entries. -/
structure CountsPaths (base : Text) (found : List FileDiagnostic) : Prop where
  /-- What is counted are paths. -/
  counted : (toJson base found).field? "files_with_diagnostics" = some (.ofNat (fileCount found)) ∧
    fileCount found = distinct (found.map (components ·.file))
  /-- Where a path has one name, there are no more names than are counted, and as many exactly if a
  name stands for one path. -/
  names_le : PathsSettleNames base found →
    distinct (fileNames (toJson base found)) ≤ fileCount found ∧
      (distinct (fileNames (toJson base found)) = fileCount found ↔ NamesSettlePaths base found)
  /-- Where a name stands for one path, no more are counted than there are names, and as many exactly
  if a path has one name. -/
  le_names : NamesSettlePaths base found →
    fileCount found ≤ distinct (fileNames (toJson base found)) ∧
      (fileCount found = distinct (fileNames (toJson base found)) ↔ PathsSettleNames base found)
  /-- Paths that have no backslash and are not written in two ways are as many as their names exactly
  if none of them is what another one looks like from the base. -/
  eq_iff : isAbsolute base = true → (∀ f ∈ found, '\\' ∉ f.file) →
    (∀ f ∈ found, ∀ g ∈ found, samePath f.file g.file = true → f.file = g.file) →
    (fileCount found = distinct (fileNames (toJson base found)) ↔
      ∀ f ∈ found, ∀ g ∈ found, below? base f.file ≠ some g.file)

section
variable {base : Text} {found : List FileDiagnostic}

theorem names_le_fileCount (h : PathsSettleNames base found) :
    distinct (fileNames (toJson base found)) ≤ fileCount found ∧
      (distinct (fileNames (toJson base found)) = fileCount found ↔
        NamesSettlePaths base found) := by
  have hsettles := distinct_map_le (f := fun f : FileDiagnostic => components f.file)
    (g := fun f => String.ofList (fileName base f.file)) (l := found) ?_
  · simpa only [fileNames_toJson, fileCount_eq, NamesSettlePaths, String.ofList_inj, samePath,
      beq_iff_eq] using hsettles
  · simpa only [PathsSettleNames, String.ofList_inj, samePath, beq_iff_eq] using h

theorem fileCount_le_names (h : NamesSettlePaths base found) :
    fileCount found ≤ distinct (fileNames (toJson base found)) ∧
      (fileCount found = distinct (fileNames (toJson base found)) ↔
        PathsSettleNames base found) := by
  have hsettles := distinct_map_le (f := fun f => String.ofList (fileName base f.file))
    (g := fun f : FileDiagnostic => components f.file) (l := found) ?_
  · simpa only [fileNames_toJson, fileCount_eq, PathsSettleNames, String.ofList_inj, samePath,
      beq_iff_eq] using hsettles
  · simpa only [NamesSettlePaths, String.ofList_inj, samePath, beq_iff_eq] using h

/-- **Names stand for one path each** exactly if no path is what another one looks like. -/
theorem namesSettlePaths_iff (hbase : isAbsolute base = true) (hslash : ∀ f ∈ found, '\\' ∉ f.file) :
    NamesSettlePaths base found ↔ ∀ f ∈ found, ∀ g ∈ found, below? base f.file ≠ some g.file := by
  have hname : ∀ f ∈ found, fileName base f.file = relativeTo base f.file :=
    fun f hf => fileName_eq_relativeTo hbase (hslash f hf)
  constructor
  · intro h f hf g hg hbelow
    obtain ⟨hsame, hapart⟩ := (relativeTo_eq_iff hbase).mpr (.inl hbelow)
    rw [h f hf g hg (by rw [hname f hf, hname g hg, hsame])] at hapart
    cases hapart
  · intro h f hf g hg hsame
    rw [hname f hf, hname g hg] at hsame
    apply Bool.eq_true_of_not_eq_false
    intro hapart
    rcases (relativeTo_eq_iff hbase).mp ⟨hsame, hapart⟩ with hbelow | hbelow
    · exact h f hf g hg hbelow
    · exact h g hg f hf hbelow

theorem fileCount_eq_names_iff (hbase : isAbsolute base = true) (hslash : ∀ f ∈ found, '\\' ∉ f.file)
    (hone : ∀ f ∈ found, ∀ g ∈ found, samePath f.file g.file = true → f.file = g.file) :
    fileCount found = distinct (fileNames (toJson base found)) ↔
      ∀ f ∈ found, ∀ g ∈ found, below? base f.file ≠ some g.file := by
  have hsettles : PathsSettleNames base found := fun f hf g hg hsame => by
    rw [hone f hf g hg hsame]
  rw [eq_comm, (names_le_fileCount hsettles).2, namesSettlePaths_iff hbase hslash]

/-- **The report counts paths, and its entries show names.** -/
theorem fileCount_countsPaths (base : Text) (found : List FileDiagnostic) :
    CountsPaths base found where
  counted := ⟨rfl, fileCount_eq found⟩
  names_le := names_le_fileCount
  le_names := fileCount_le_names
  eq_iff := fileCount_eq_names_iff

end
end GraphLint.Report

/-! ## The count of a check -/

namespace GraphLint.Command
open Files

section
variable {fs : FileSystem} {request : CheckRequest} {path : Text} {found : List FileDiagnostic}

/-- **A check of one path counts as many files as its entries name**, in a well-formed tree and as long
as no file with findings has a backslash in its path. -/
theorem fileCount_of_findings (hfs : fs.root.WellFormed) (hpaths : request.paths = [path])
    (h : findings fs request = .ok found) (hslash : ∀ f ∈ found, '\\' ∉ f.file) :
    Report.fileCount found =
      Report.distinct (Report.fileNames (Report.toJson (absolute fs.working) found)) := by
  obtain ⟨config, -, -, hvalidate⟩ := exists_validate_of_findings hpaths h
  have hwalked : ∀ f ∈ found, f.file ∈ walk fs path := fun f hf =>
    ((Project.mem_iff_of_validateWalked_eq_ok hvalidate).mp hf).1
  have hbase := isAbsolute_absolute fs.working
  refine (Report.fileCount_eq_names_iff hbase hslash fun f hf g hg =>
    eq_of_mem_walk_of_samePath hfs (hwalked f hf) (hwalked g hg)).mpr fun f hf g hg hbelow => ?_
  -- the one path would have to be absolute and the other one relative
  obtain ⟨habsolute, hrelative⟩ := isAbsolute_ne_of_below? hbase hbelow
  rw [isAbsolute_of_mem_walk (hwalked g hg)] at hrelative
  rw [isAbsolute_of_mem_walk (hwalked f hf), hrelative] at habsolute
  cases habsolute

end

/-- A graph that lacks nothing but its name. -/
def unnamedGraph : Text :=
  "apiVersion: kro.run/v1alpha1\nkind: ResourceGraphDefinition\nspec:\n  resources:\n".toList

/-- A working directory with this graph. -/
def unnamedTree : FileSystem where
  root := .directory [("w".toList, .directory [("a.kro".toList, .file (Text.encode unnamedGraph))])]
  working := ["w".toList]

theorem validate_unnamedTree {path : Text} {patterns : List (List Pattern.Piece)} {d : Diagnostic}
    (hpatterns : Project.readPatterns ({} : Config).exclude = .ok patterns)
    (hwalk : walk unnamedTree path = [path]) (hread : unnamedTree.readText path = .ok unnamedGraph)
    (hselected : Project.selects {} patterns path = true)
    (hfound : Validation.validate {} unnamedGraph = [d]) :
    Project.validate unnamedTree {} path = .ok [⟨path, d⟩] := by
  refine (Project.validateWalked_eq_ok_iff hpatterns).mpr ⟨fun p hp _ => ⟨unnamedGraph, ?_⟩, ?_⟩
  · rw [hwalk, List.mem_singleton] at hp
    rw [hp, hread]
  · rw [hwalk, List.filter_cons_of_pos hselected, List.filter_nil, List.flatMap_singleton,
      Project.findingsIn_of_readText hread, hfound, Project.sort]
    exact (List.mergeSort_singleton _).symm

/-- **A file that is checked by its relative and by its absolute path is counted twice**, under the one
name that the entries have for it. -/
theorem countedTwice_unnamedGraph :
    unnamedTree.locate "a.kro".toList = unnamedTree.locate "/w/a.kro".toList ∧
    ∃ found, findings unnamedTree
        { paths := ["a.kro".toList, "/w/a.kro".toList], format := .json } = .ok found ∧
      (Report.toJson (absolute unnamedTree.working) found).field? "files_with_diagnostics" =
        some (.ofNat 2) ∧
      Report.distinct (Report.fileNames (Report.toJson (absolute unnamedTree.working) found)) =
        1 := by
  obtain ⟨d, hfound⟩ : ∃ d, Validation.validate {} unnamedGraph = [d] :=
    List.length_eq_one_iff.mp (by decide +kernel)
  obtain ⟨patterns, hpatterns, hselected, hselected'⟩ : ∃ patterns,
      Project.readPatterns ({} : Config).exclude = .ok patterns ∧
        Project.selects {} patterns "a.kro".toList = true ∧
        Project.selects {} patterns "/w/a.kro".toList = true :=
    ⟨_, rfl, by decide +kernel, by decide +kernel⟩
  have hconfig : configFor unnamedTree none = .ok {} := by decide +kernel
  refine ⟨rfl, [⟨"a.kro".toList, d⟩, ⟨"/w/a.kro".toList, d⟩], ?_, rfl, ?_⟩
  · rw [findings, hconfig]
    refine collect_eq_ok_iff.mpr ⟨[[⟨"a.kro".toList, d⟩], [⟨"/w/a.kro".toList, d⟩]],
      .cons ⟨by decide +kernel, ?_⟩ (.cons ⟨by decide +kernel, ?_⟩ .nil), rfl⟩
    · exact validate_unnamedTree hpatterns (by decide +kernel) (by decide +kernel) hselected hfound
    · exact validate_unnamedTree hpatterns (by decide +kernel) (by decide +kernel) hselected' hfound
  · have hrelative : Report.fileName (absolute unnamedTree.working) "a.kro".toList =
        "a.kro".toList := by decide +kernel
    have habsolute : Report.fileName (absolute unnamedTree.working) "/w/a.kro".toList =
        "a.kro".toList := by decide +kernel
    rw [Report.fileNames_toJson, List.map_cons, List.map_cons, List.map_nil, hrelative, habsolute]
    decide

end GraphLint.Command
