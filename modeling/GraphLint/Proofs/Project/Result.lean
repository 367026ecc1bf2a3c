import GraphLint.Proofs.Project.Order
import GraphLint.Proofs.Validation.Distinct
/-! # The result for a project

What a project is told does not depend on the order in which its files are walked.  Between files
the findings differ in the file, and within a file in the start or the rule, so no two of them
agree, and sorting puts them in the one order they have (`sort_eq_of_perm`).  Nothing is lost or made
up on the way: of a selected file the result says what its text has, and of no other file anything. -/
namespace GraphLint.Project
open Files

/-- What is found about walked files, where every selected one can be read: findings in their order,
no two of them alike, all about selected files, and about each of these what its text has. -/
structure IsResult (fs : FileSystem) (config : Config) (patterns : List (List Pattern.Piece))
    (files : List Text) (found : List FileDiagnostic) : Prop where
  increasing : found.Pairwise Precedes
  apart : found.Pairwise fun a b => ¬ Agree a b
  complete : ∀ p ∈ files, selects config patterns p = true → ∀ text, fs.readText p = .ok text →
    ((found.filter fun e => samePath e.file p).map (·.diagnostic)).Perm
      (Validation.validate config text)
  selected : ∀ e ∈ found, e.file ∈ files ∧ selects config patterns e.file = true

/-- The findings about the file at a path, as they stand in the result for a project. -/
def findingsIn (fs : FileSystem) (config : Config) (path : Text) : List FileDiagnostic :=
  match fs.readText path with
  | .ok text => (Validation.validate config text).map (⟨path, ·⟩)
  | .error _ => []

section
variable {fs : FileSystem} {config : Config} {patterns : List (List Pattern.Piece)}
  {path text : Text} {files : List Text}

theorem findingsIn_of_readText (h : fs.readText path = .ok text) :
    findingsIn fs config path = (Validation.validate config text).map (⟨path, ·⟩) := by
  rw [findingsIn, h]

theorem map_diagnostic_findingsIn (h : fs.readText path = .ok text) :
    (findingsIn fs config path).map (·.diagnostic) = Validation.validate config text := by
  rw [findingsIn_of_readText h, List.map_map]
  exact List.map_id _

theorem file_of_mem_findingsIn {e : FileDiagnostic} (h : e ∈ findingsIn fs config path) :
    e.file = path := by
  unfold findingsIn at h
  split at h
  · obtain ⟨d, _, rfl⟩ := List.mem_map.mp h
    rfl
  · cases h

/-- The files that are read, one after the other. -/
theorem validateAll_eq
    (h : ∀ p ∈ files, config.accepts p = true ∧ ∃ text, fs.readText p = .ok text) :
    validateAll fs config files = .ok (files.flatMap (findingsIn fs config)) := by
  induction files with
  | nil => rfl
  | cons p rest ih =>
    obtain ⟨haccepts, text, htext⟩ := h p List.mem_cons_self
    have hrest := ih fun q hq => h q (List.mem_cons_of_mem p hq)
    rw [validateAll, validateFile, if_pos haccepts, htext, hrest, List.flatMap_cons,
      findingsIn_of_readText htext]

theorem validateWalked_of_readPatterns_eq_ok (hpatterns : readPatterns config.exclude = .ok patterns)
    (fs : FileSystem) (files : List Text) : validateWalked fs config files =
      (validateAll fs config (files.filter (selects config patterns)) >>= fun found =>
        .ok (sort found)) := by
  rw [validateWalked, hpatterns]
  rfl

theorem validateWalked_of_readPatterns_eq_error {e : LintError}
    (h : readPatterns config.exclude = .error e) (fs : FileSystem) (files : List Text) :
    validateWalked fs config files = .error e := by
  rw [validateWalked, h]
  rfl

theorem validateWalked_eq (hpatterns : readPatterns config.exclude = .ok patterns)
    (hread : ∀ p ∈ files, selects config patterns p = true → ∃ text, fs.readText p = .ok text) :
    validateWalked fs config files =
      .ok (sort ((files.filter (selects config patterns)).flatMap (findingsIn fs config))) := by
  have hall : validateAll fs config (files.filter (selects config patterns)) =
      .ok ((files.filter (selects config patterns)).flatMap (findingsIn fs config)) := by
    apply validateAll_eq
    intro p hp
    obtain ⟨hmem, hselected⟩ := List.mem_filter.mp hp
    exact ⟨(Bool.and_eq_true_iff.mp hselected).1, hread p hmem hselected⟩
  rw [validateWalked_of_readPatterns_eq_ok hpatterns, hall]
  rfl

/-! ## One file and several files -/

/-- No two findings about one file agree. -/
theorem findingsIn_pairwise_not_agree
    (h : ∀ text, fs.readText path = .ok text → text.Addressable) :
    (findingsIn fs config path).Pairwise fun a b => ¬ Agree a b := by
  cases htext : fs.readText path with
  | error e =>
    rw [findingsIn, htext]
    exact List.Pairwise.nil
  | ok text =>
    rw [findingsIn_of_readText htext, List.pairwise_map]
    refine (Validation.validateBy_pairwise_differ Yaml.check config (h text htext)).imp ?_
    rintro a b hdiffer ⟨_, hstart, hrule⟩
    rcases hdiffer with hne | hne
    · exact hne hstart
    · exact hne hrule

section Distinct
variable (hdistinct : files.Pairwise fun p q => samePath p q = false)
include hdistinct

/-- No two findings about files agree, where no two of the files are the same. -/
theorem flatMap_findingsIn_pairwise_not_agree (config : Config)
    (h : ∀ p ∈ files, ∀ text, fs.readText p = .ok text → text.Addressable) :
    (files.flatMap (findingsIn fs config)).Pairwise fun a b => ¬ Agree a b := by
  rw [List.pairwise_flatMap]
  refine ⟨fun p hp => findingsIn_pairwise_not_agree (h p hp), hdistinct.imp ?_⟩
  rintro p q hpq a ha b hb ⟨hfile, _⟩
  rw [file_of_mem_findingsIn ha, file_of_mem_findingsIn hb, hpq] at hfile
  cases hfile

/-- The findings that name one of the files are the findings about it. -/
theorem filter_flatMap_findingsIn (hp : path ∈ files) :
    (files.flatMap (findingsIn fs config)).filter (fun e => samePath e.file path) =
      findingsIn fs config path := by
  induction files with
  | nil => cases hp
  | cons q rest ih =>
    obtain ⟨hq, hrest⟩ := List.pairwise_cons.mp hdistinct
    rw [List.flatMap_cons, List.filter_append]
    rcases List.mem_cons.mp hp with rfl | hp'
    -- the named file stands first, so no later one has its name
    · have hown : (findingsIn fs config path).filter (fun e => samePath e.file path) =
          findingsIn fs config path := by
        rw [List.filter_eq_self]
        intro e he
        rw [file_of_mem_findingsIn he, samePath_self]
      have hothers : (rest.flatMap (findingsIn fs config)).filter (fun e => samePath e.file path) =
          [] := by
        rw [List.filter_eq_nil_iff]
        intro e he hfile
        obtain ⟨r, hr, he⟩ := List.mem_flatMap.mp he
        rw [file_of_mem_findingsIn he, samePath_comm, hq r hr] at hfile
        cases hfile
      rw [hown, hothers, List.append_nil]
    -- it stands further on, so the first one does not have its name
    · have hother : (findingsIn fs config q).filter (fun e => samePath e.file path) = [] := by
        rw [List.filter_eq_nil_iff]
        intro e he hfile
        rw [file_of_mem_findingsIn he, hq path hp'] at hfile
        cases hfile
      rw [hother, List.nil_append, ih hrest hp']

/-! ## The whole project -/

/-- **Validating files gives one result**, whatever the order of the files. -/
theorem exists_isResult (hpatterns : readPatterns config.exclude = .ok patterns)
    (hread : ∀ p ∈ files, selects config patterns p = true →
      ∃ text, fs.readText p = .ok text ∧ text.Addressable) :
    ∃ found, (∀ walked : List Text, walked.Perm files →
        validateWalked fs config walked = .ok found) ∧
      IsResult fs config patterns files found := by
  let chosen := files.filter (selects config patterns)
  have hchosen : chosen.Pairwise fun p q => samePath p q = false := hdistinct.filter _
  have haddressable : ∀ p ∈ chosen, ∀ text, fs.readText p = .ok text → text.Addressable := by
    intro p hp text htext
    obtain ⟨hmem, hselected⟩ := List.mem_filter.mp hp
    obtain ⟨text', htext', haddr⟩ := hread p hmem hselected
    rw [htext] at htext'
    cases htext'
    exact haddr
  have hapart := flatMap_findingsIn_pairwise_not_agree hchosen config haddressable
  refine ⟨sort (chosen.flatMap (findingsIn fs config)), fun walked hwalked => ?_, ?_⟩
  · rw [validateWalked_eq hpatterns fun p hp hselected => ?_]
    · exact congrArg Except.ok (sort_eq_of_perm hapart ((hwalked.filter _).flatMap_right _))
    · obtain ⟨text, htext, _⟩ := hread p (hwalked.mem_iff.mp hp) hselected
      exact ⟨text, htext⟩
  · have hperm := sort_perm (chosen.flatMap (findingsIn fs config))
    constructor
    case increasing => exact sort_pairwise_precedes hapart
    case apart => exact hperm.symm.pairwise hapart (mt Agree.symm)
    case complete =>
      intro p hp hselected text htext
      have hmem : p ∈ chosen := List.mem_filter.mpr ⟨hp, hselected⟩
      have hnamed := (hperm.filter fun e => samePath e.file p).map (·.diagnostic)
      rw [filter_flatMap_findingsIn hchosen hmem, map_diagnostic_findingsIn htext] at hnamed
      exact hnamed
    case selected =>
      intro e he
      obtain ⟨p, hp, he⟩ := List.mem_flatMap.mp (hperm.mem_iff.mp he)
      rw [file_of_mem_findingsIn he]
      exact List.mem_filter.mp hp

end Distinct

/-- **The result for a project is complete, without repetition and independent of the walk.**  Among
walked entries that are pairwise distinct as paths, let every selected file be a text.  Then there
is one list that the project is told in whatever order the entries are walked.  It is strictly
increasing in file, start and rule; the findings that name a selected file are those about its text;
and no other file is named. -/
theorem result_independent_of_walk (fs : FileSystem) (config : Config)
    (patterns : List (List Pattern.Piece)) (entries : List Text)
    (hpatterns : readPatterns config.exclude = .ok patterns)
    (hdistinct : entries.Pairwise fun p q => samePath p q = false)
    (hread : ∀ p ∈ entries, fs.isFile p = true → selects config patterns p = true →
      ∃ text, fs.readText p = .ok text ∧ text.Addressable) :
    ∃ found, (∀ walked : List Text, walked.Perm entries →
        validateWalked fs config (walked.filter fs.isFile) = .ok found) ∧
      IsResult fs config patterns (entries.filter fs.isFile) found := by
  have hfiles : ∀ p ∈ entries.filter fs.isFile, selects config patterns p = true →
      ∃ text, fs.readText p = .ok text ∧ text.Addressable := by
    intro p hp hselected
    obtain ⟨hmem, hfile⟩ := List.mem_filter.mp hp
    exact hread p hmem hfile hselected
  obtain ⟨found, hfound, hresult⟩ := exists_isResult (hdistinct.filter fs.isFile) hpatterns hfiles
  exact ⟨found, fun walked hwalked => hfound _ (hwalked.filter _), hresult⟩

/-- The text of both files of `twoGraphs`. -/
def ofNoKind : Text := "kind: Foo\n".toList

/-- A directory with two graphs and a directory. -/
def twoGraphs : FileSystem where
  root := .directory [("b.kro".toList, .file (Text.encode ofNoKind)),
    ("a.kro".toList, .file (Text.encode ofNoKind)), ("d".toList, .directory [])]
  working := []

/-- The entries of `twoGraphs`, as a walk may yield them. -/
def twoGraphsEntries : List Text := ["/".toList, "/b.kro".toList, "/d".toList, "/a.kro".toList]

theorem result_independent_of_walk_twoGraphs :
    readPatterns [['d']] = .ok [[Pattern.Piece.char 'd']] ∧ ∃ found,
      (∀ walked : List Text, walked.Perm twoGraphsEntries →
        validateWalked twoGraphs { exclude := [['d']] } (walked.filter twoGraphs.isFile) =
          .ok found) ∧
      IsResult twoGraphs { exclude := [['d']] } [[.char 'd']]
        (twoGraphsEntries.filter twoGraphs.isFile) found := by
  have haddressable : ofNoKind.Addressable := ⟨by decide, by decide⟩
  have hread : ∀ p ∈ twoGraphsEntries, twoGraphs.isFile p = true →
      twoGraphs.readText p = .ok ofNoKind := by
    decide +kernel
  exact ⟨rfl, result_independent_of_walk twoGraphs { exclude := [['d']] } [[.char 'd']]
    twoGraphsEntries rfl (by decide) fun p hp hfile _ => ⟨ofNoKind, hread p hp hfile, haddressable⟩⟩

end
end GraphLint.Project
