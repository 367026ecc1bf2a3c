import GraphLint.Proofs.Project.Outcome
/-! # Which files are looked at

A file is looked at for the extension that its path ends in, where a path is taken to end at its first
question mark or number sign (`Config.accepts_iff`).  In a URI these set off a query and a fragment.
In the path of a file they are characters like any others, which the file may have in its name and any
directory above it as well.  So a path without them is judged by its last part, as it should be
(`suffix_of_getLast?_parts`).  Any other is judged by what is called its head here, which may be the
path of nothing at all, and a graph is passed over without a word (`numberedGraph`). -/
namespace GraphLint.Config

/-- A character that sets off a query or a fragment. -/
def IsMark (c : Char) : Prop := c = '?' ∨ c = '#'

/-- The head of a path is what stands before its first mark. -/
structure IsHead (path head : Text) : Prop where
  unmarked : ∀ c ∈ head, ¬ IsMark c
  cut : path = head ∨ ∃ mark tail, IsMark mark ∧ path = head ++ mark :: tail

/-- A text ends in a dot and an accepted extension. -/
def EndsInExtension (config : Config) (t : Text) : Prop :=
  ∃ e ∈ config.fileExtensions, '.' :: e <:+ t

section
variable {config : Config} {path head : Text}

theorem not_isMark_iff {c : Char} : ¬ IsMark c ↔ (c != '?' && c != '#') = true := by
  simp [IsMark]

theorem isHead_self (h : ∀ c ∈ path, ¬ IsMark c) : IsHead path path := ⟨h, .inl rfl⟩

theorem isHead_takeWhile (path : Text) :
    IsHead path (path.takeWhile fun x => x != '?' && x != '#') := by
  induction path with
  | nil => exact isHead_self nofun
  | cons c path ih =>
    by_cases hmark : IsMark c
    · rw [List.takeWhile_cons, if_neg (fun h => not_isMark_iff.mpr h hmark)]
      exact ⟨nofun, .inr ⟨c, path, hmark, rfl⟩⟩
    · rw [List.takeWhile_cons, if_pos (not_isMark_iff.mp hmark)]
      refine ⟨List.forall_mem_cons.mpr ⟨hmark, ih.unmarked⟩, ?_⟩
      rcases ih.cut with hwhole | ⟨mark, tail, htail, hcut⟩
      · exact .inl (congrArg (c :: ·) hwhole)
      · exact .inr ⟨mark, tail, htail, congrArg (c :: ·) hcut⟩

/-- **A path has one head.** -/
theorem IsHead.eq_takeWhile (h : IsHead path head) :
    head = path.takeWhile fun x => x != '?' && x != '#' := by
  have hhead : ∀ c ∈ head, (c != '?' && c != '#') = true := fun c hc =>
    not_isMark_iff.mp (h.unmarked c hc)
  rcases h.cut with rfl | ⟨mark, tail, hmark, rfl⟩
  · exact (List.takeWhile_eq_self_iff.mpr hhead).symm
  · rw [List.takeWhile_append_of_pos hhead,
      List.takeWhile_cons, if_neg (fun h => not_isMark_iff.mpr h hmark), List.append_nil]

/-- **A path is accepted for the end of its head.** -/
theorem accepts_iff (h : IsHead path head) :
    config.accepts path = true ↔ EndsInExtension config head := by
  rw [accepts, ← h.eq_takeWhile, List.any_eq_true]
  simp only [hasExtension, List.isSuffixOf_iff_suffix]
  rfl

theorem EndsInExtension.of_suffix {s t : Text} (h : EndsInExtension config s) (hs : s <:+ t) :
    EndsInExtension config t := by
  obtain ⟨e, he, hsuffix⟩ := h
  exact ⟨e, he, hsuffix.trans hs⟩

end
end GraphLint.Config

namespace GraphLint.Project
open Files

/-- How a file is judged by the head of its path. -/
structure IsJudgedByHead (config : Config) (path head : Text) : Prop where
  /-- Where the head ends in an extension, there are the findings about the file's text or an error. -/
  looked : config.EndsInExtension head → ∀ fs : FileSystem,
    (∀ text, fs.readText path = .ok text →
      validateFile fs config path = .ok (Validation.validate config text)) ∧
    ∀ cause, fs.readText path = .error cause →
      validateFile fs config path = .error (.fileRead path cause)
  /-- The file is passed over, whatever it is, exactly where the head ends in none. -/
  passedOver_iff : (∀ fs : FileSystem, validateFile fs config path = .ok []) ↔
    ¬ config.EndsInExtension head
  /-- A project selects the file where the head ends in one, unless a pattern covers the path. -/
  selected_iff : IsSelected config path ↔ config.EndsInExtension head ∧
    ∀ pattern ∈ config.exclude, ∀ pieces, Pattern.read pattern = .ok pieces →
      Pattern.covers pieces path = false
  /-- If the file is walked, the findings about it are reported exactly if it is selected. -/
  reported_iff : ∀ (fs : FileSystem) (start : Text) (found : List FileDiagnostic),
    validate fs config start = .ok found → path ∈ walk fs start → ∀ d, ⟨path, d⟩ ∈ found ↔
      IsSelected config path ∧
        ∃ text, fs.readText path = .ok text ∧ d ∈ Validation.validate config text
  /-- Where the path has no mark, an extension of its last part is one of the head. -/
  unmarked : (∀ c ∈ path, ¬ Config.IsMark c) → ∀ name, (parts path).getLast? = some name →
    config.EndsInExtension name → config.EndsInExtension head

section
variable {config : Config} {path head : Text}

/-- There may be nothing to read at a path. -/
theorem exists_readText_eq_error (path : Text) :
    ∃ (fs : FileSystem) (cause : FileError), fs.readText path = .error cause := by
  refine ⟨⟨.directory [], []⟩, ?_⟩
  rw [FileSystem.readText, FileSystem.read]
  cases hlocate : FileSystem.locate ⟨.directory [], []⟩ path with
  | error e => exact ⟨e, rfl⟩
  | ok found =>
    obtain ⟨place, node⟩ := found
    -- below a root without entries there is nothing but that root
    cases FileSystem.stands_of_locate hlocate with
    | removed _ => exact ⟨.isDirectory, rfl⟩
    | here h =>
      cases place with
      | nil =>
        cases h
        exact ⟨.isDirectory, rfl⟩
      | cons name names => cases h

theorem validateFile_passedOver_iff (h : Config.IsHead path head) :
    (∀ fs : FileSystem, validateFile fs config path = .ok []) ↔ ¬ config.EndsInExtension head := by
  rw [← Config.accepts_iff h]
  constructor
  · intro hnothing haccepts
    obtain ⟨fs, cause, hcause⟩ := exists_readText_eq_error path
    have hfile := hnothing fs
    rw [validateFile, if_pos haccepts, hcause] at hfile
    cases hfile
  · intro haccepts fs
    rw [validateFile, if_neg haccepts]

theorem isJudgedByHead_of_isHead (config : Config) (h : Config.IsHead path head) :
    IsJudgedByHead config path head where
  looked hhead fs := by
    have haccepts := (Config.accepts_iff h).mpr hhead
    refine ⟨fun text htext => ?_, fun cause hcause => ?_⟩
    · rw [validateFile, if_pos haccepts, htext]
    · rw [validateFile, if_pos haccepts, hcause]
  passedOver_iff := validateFile_passedOver_iff h
  selected_iff := by
    rw [← Config.accepts_iff h]
    constructor
    · intro hselected
      exact ⟨hselected.accepted, hselected.uncovered⟩
    · rintro ⟨haccepts, huncovered⟩
      exact ⟨haccepts, huncovered⟩
  reported_iff fs start found hfound hwalk d := by
    rw [mem_iff_of_validateWalked_eq_ok hfound, and_iff_right hwalk]
  unmarked hunmarked name hname hend := by
    have hwhole : head = path := h.eq_takeWhile.trans (Config.isHead_self hunmarked).eq_takeWhile.symm
    rw [hwhole]
    exact hend.of_suffix (suffix_of_getLast?_parts hname)

end

/-- **Every file is judged by the head of its path.**  For a path without marks this is the whole path,
so that files are selected by the extension of their name.  For a path with a mark in it, be it in the
name of a directory, only what stands before the mark counts. -/
theorem files_judgedByHead (config : Config) (path : Text) :
    ∃ head, Config.IsHead path head ∧ IsJudgedByHead config path head :=
  ⟨_, Config.isHead_takeWhile path, isJudgedByHead_of_isHead config (Config.isHead_takeWhile path)⟩

/-- A working directory with an empty graph that has a number sign in its name. -/
def numberedGraph : FileSystem where
  root := .directory [("a#1.kro".toList, .file [])]
  working := []

/-- **A graph with a number sign in its name is passed over.**  Its name ends in an extension, its text
can be read and there are findings about it, which an editor is told that has it open under its URI.
But validating the file finds nothing, and neither does a project that walks it and leaves nothing out
by a pattern. -/
theorem passedOver_numberedGraph :
    (parts "a#1.kro".toList).getLast? = some "a#1.kro".toList ∧
    ({} : Config).EndsInExtension "a#1.kro".toList ∧
    numberedGraph.readText "a#1.kro".toList = .ok [] ∧
    Validation.validate {} [] ≠ [] ∧
    Validation.validateDocument {} "file:///a%231.kro".toList [] = Validation.validate {} [] ∧
    validateFile numberedGraph {} "a#1.kro".toList = .ok [] ∧
    walk numberedGraph ['.'] = ["./a#1.kro".toList] ∧
    (∃ patterns, readPatterns ({} : Config).exclude = .ok patterns ∧
      isExcluded patterns "./a#1.kro".toList = false) ∧
    validate numberedGraph {} ['.'] = .ok [] := by
  have hextension : ({} : Config).EndsInExtension "a#1.kro".toList :=
    ⟨"kro".toList, by decide, by decide⟩
  have hwalk : walk numberedGraph ['.'] = ["./a#1.kro".toList] := rfl
  obtain ⟨patterns, hpatterns, huncovered⟩ : ∃ patterns,
      readPatterns ({} : Config).exclude = .ok patterns ∧
        isExcluded patterns "./a#1.kro".toList = false :=
    ⟨_, rfl, by decide +kernel⟩
  have hproject : validate numberedGraph {} ['.'] = .ok [] := by
    have hselected : ["./a#1.kro".toList].filter (selects {} patterns) = [] := rfl
    rw [validate, hwalk, validateWalked_of_readPatterns_eq_ok hpatterns, hselected]
    exact congrArg Except.ok List.mergeSort_nil
  exact ⟨rfl, hextension, rfl, by decide +kernel, rfl, rfl, hwalk, ⟨patterns, hpatterns, huncovered⟩,
    hproject⟩

end GraphLint.Project
