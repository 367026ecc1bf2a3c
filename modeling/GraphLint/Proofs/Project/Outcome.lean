import GraphLint.Proofs.Project.Exclude
/-! # Which error a project ends in

Validating a project goes through three stages, each of which stops at its first failure: the exclude
patterns are read, the walked files are sifted, and the selected ones are read and validated.  What
comes out can be told from the data alone.  The patterns come first, so a malformed one is reported
whatever the files are, and it is the first of them (`readPatterns_cases`).  Only selected files are
read, so an error about a file names a selected one (`exists_of_validateAll_eq_error`), and what
other files hold makes no difference (`validateWalked_congr`).  Findings are kept back until all files
are validated, so they are about every selected file or there are none
(`mem_iff_of_validateWalked_eq_ok`). -/
namespace GraphLint.Project
open Files

/-- A pattern can be read. -/
def IsWellFormed (pattern : Text) : Prop := ∃ pieces, Pattern.read pattern = .ok pieces

/-- A file is selected: it is accepted, and no exclude pattern covers it. -/
structure IsSelected (config : Config) (file : Text) : Prop where
  accepted : config.accepts file = true
  uncovered : ∀ pattern ∈ config.exclude, ∀ pieces, Pattern.read pattern = .ok pieces →
    Pattern.covers pieces file = false

/-- What comes out of validating walked files. -/
structure IsExact (fs : FileSystem) (config : Config) (files : List Text)
    (outcome : Except LintError (List FileDiagnostic)) : Prop where
  /-- There is a result exactly if all patterns can be read and every selected file is a text. -/
  ok_iff : (∃ found, outcome = .ok found) ↔
    (∀ pattern ∈ config.exclude, IsWellFormed pattern) ∧
      ∀ p ∈ files, IsSelected config p → ∃ text, fs.readText p = .ok text
  /-- A result has all findings about all selected files and nothing else. -/
  whole : ∀ found, outcome = .ok found → ∀ e, e ∈ found ↔
    e.file ∈ files ∧ IsSelected config e.file ∧
      ∃ text, fs.readText e.file = .ok text ∧ e.diagnostic ∈ Validation.validate config text
  /-- If some pattern is malformed, the first of them is reported. -/
  malformed : (∃ pattern ∈ config.exclude, ¬ IsWellFormed pattern) →
    ∃ before pattern after fault, config.exclude = before ++ pattern :: after ∧
      (∀ q ∈ before, IsWellFormed q) ∧ Pattern.read pattern = .error fault ∧
      outcome = .error (.invalidExclude pattern fault.text)
  /-- Otherwise, if some selected file cannot be read, one of these is reported. -/
  unreadable : (∀ pattern ∈ config.exclude, IsWellFormed pattern) →
    (∃ p ∈ files, IsSelected config p ∧ ∃ cause, fs.readText p = .error cause) →
    ∃ p ∈ files, IsSelected config p ∧ ∃ cause, fs.readText p = .error cause ∧
      outcome = .error (.fileRead p cause)
  /-- Whatever the other files hold, the same comes out. -/
  unselected : ∀ fs' : FileSystem,
    (∀ p ∈ files, IsSelected config p → fs'.readText p = fs.readText p) →
    validateWalked fs' config files = outcome

/-! ## Patterns -/

section
variable {fs : FileSystem} {config : Config} {files texts : List Text} {file : Text}
  {patterns : List (List Pattern.Piece)} {found : List FileDiagnostic}

/-- **Either all patterns can be read, or the first that cannot is reported.** -/
theorem readPatterns_cases (texts : List Text) :
    ((∀ pattern ∈ texts, IsWellFormed pattern) ∧ ∃ patterns, readPatterns texts = .ok patterns) ∨
      ∃ before pattern after fault, texts = before ++ pattern :: after ∧
        (∀ q ∈ before, IsWellFormed q) ∧ Pattern.read pattern = .error fault ∧
        readPatterns texts = .error (.invalidExclude pattern fault.text) := by
  induction texts with
  | nil => exact .inl ⟨nofun, [], rfl⟩
  | cons first rest ih =>
    cases hread : Pattern.read first with
    | error fault =>
      exact .inr ⟨[], first, rest, fault, rfl, nofun, hread, readPatterns_cons_of_error hread rest⟩
    | ok pieces =>
      have hstep := readPatterns_cons_of_ok hread rest
      rcases ih with ⟨hwell, patterns, hpatterns⟩ |
        ⟨before, pattern, after, fault, rfl, hbefore, hfault, herror⟩
      · refine .inl ⟨List.forall_mem_cons.mpr ⟨⟨pieces, hread⟩, hwell⟩, pieces :: patterns, ?_⟩
        rw [hstep, hpatterns]
        rfl
      · refine .inr ⟨first :: before, pattern, after, fault, rfl,
          List.forall_mem_cons.mpr ⟨⟨pieces, hread⟩, hbefore⟩, hfault, ?_⟩
        rw [hstep, herror]
        rfl

theorem exists_readPatterns_eq_ok_iff :
    (∃ patterns, readPatterns texts = .ok patterns) ↔ ∀ pattern ∈ texts, IsWellFormed pattern := by
  rcases readPatterns_cases texts with ⟨hwell, hpatterns⟩ |
    ⟨before, pattern, after, fault, rfl, -, hfault, herror⟩
  · exact iff_of_true hpatterns hwell
  · refine iff_of_false (fun ⟨patterns, hpatterns⟩ => ?_) fun hwell => ?_
    · rw [herror] at hpatterns
      cases hpatterns
    · obtain ⟨pieces, hpieces⟩ := hwell pattern (by simp)
      rw [hfault] at hpieces
      cases hpieces

/-- The patterns that are held against a file are those of the configuration. -/
theorem mem_iff_of_readPatterns_eq_ok (h : readPatterns texts = .ok patterns)
    {pieces : List Pattern.Piece} :
    pieces ∈ patterns ↔ ∃ pattern ∈ texts, Pattern.read pattern = .ok pieces := by
  induction texts generalizing patterns with
  | nil =>
    cases h
    simp
  | cons first rest ih =>
    cases hread : Pattern.read first with
    | error fault =>
      rw [readPatterns_cons_of_error hread] at h
      cases h
    | ok firstPieces =>
      rw [readPatterns_cons_of_ok hread] at h
      cases hrest : readPatterns rest with
      | error e =>
        rw [hrest] at h
        cases h
      | ok others =>
        rw [hrest] at h
        obtain rfl : firstPieces :: others = patterns := Except.ok.inj h
        rw [List.mem_cons, ih hrest, List.exists_mem_cons_iff, hread, Except.ok.injEq, eq_comm]

theorem selects_iff (hpatterns : readPatterns config.exclude = .ok patterns) :
    selects config patterns file = true ↔ IsSelected config file := by
  rw [selects, Bool.and_eq_true, Bool.not_eq_true', List.any_eq_false]
  simp only [mem_iff_of_readPatterns_eq_ok hpatterns, Bool.not_eq_true]
  constructor
  · rintro ⟨haccepts, hcovers⟩
    exact ⟨haccepts, fun pattern hmem pieces hread => hcovers pieces ⟨pattern, hmem, hread⟩⟩
  · rintro ⟨haccepts, huncovered⟩
    exact ⟨haccepts, fun pieces ⟨pattern, hmem, hread⟩ => huncovered pattern hmem pieces hread⟩

/-! ## Files -/

theorem exists_of_validateFile_eq_error {e : LintError} (h : validateFile fs config file = .error e) :
    ∃ cause, fs.readText file = .error cause ∧ e = .fileRead file cause := by
  unfold validateFile at h
  split at h
  · split at h
    · cases h
    · rename_i cause hcause
      exact ⟨cause, hcause, (Except.error.inj h).symm⟩
  · cases h

/-- **An error about files names one that cannot be read.** -/
theorem exists_of_validateAll_eq_error {e : LintError} (h : validateAll fs config files = .error e) :
    ∃ p ∈ files, ∃ cause, fs.readText p = .error cause ∧ e = .fileRead p cause := by
  induction files with
  | nil => cases h
  | cons first rest ih =>
    rw [validateAll] at h
    cases hfirst : validateFile fs config first with
    | error e' =>
      rw [hfirst] at h
      obtain rfl := Except.error.inj h
      exact ⟨first, List.mem_cons_self, exists_of_validateFile_eq_error hfirst⟩
    | ok found =>
      rw [hfirst] at h
      cases hrest : validateAll fs config rest with
      | error e' =>
        rw [hrest] at h
        obtain rfl := Except.error.inj h
        obtain ⟨p, hp, hcause⟩ := ih hrest
        exact ⟨p, List.mem_cons_of_mem first hp, hcause⟩
      | ok others =>
        rw [hrest] at h
        cases h

/-- **What is not selected makes no difference.** -/
theorem validateWalked_congr {fs' : FileSystem}
    (h : ∀ p ∈ files, IsSelected config p → fs'.readText p = fs.readText p) :
    validateWalked fs' config files = validateWalked fs config files := by
  cases hpatterns : readPatterns config.exclude with
  | error e =>
    rw [validateWalked_of_readPatterns_eq_error hpatterns,
      validateWalked_of_readPatterns_eq_error hpatterns]
  | ok patterns =>
    rw [validateWalked_of_readPatterns_eq_ok hpatterns,
      validateWalked_of_readPatterns_eq_ok hpatterns, validateAll_congr]
    intro p hp
    obtain ⟨hmem, hselected⟩ := List.mem_filter.mp hp
    exact h p hmem ((selects_iff hpatterns).mp hselected)

/-- **A result is about all selected files.** -/
theorem mem_iff_of_validateWalked_eq_ok (h : validateWalked fs config files = .ok found)
    {e : FileDiagnostic} : e ∈ found ↔ e.file ∈ files ∧ IsSelected config e.file ∧
      ∃ text, fs.readText e.file = .ok text ∧ e.diagnostic ∈ Validation.validate config text := by
  obtain ⟨patterns, hpatterns⟩ := exists_readPatterns_eq_ok h
  obtain ⟨hread, rfl⟩ := (validateWalked_eq_ok_iff hpatterns).mp h
  rw [(sort_perm _).mem_iff, List.mem_flatMap]
  constructor
  · rintro ⟨p, hp, he⟩
    obtain ⟨hmem, hselected⟩ := List.mem_filter.mp hp
    obtain ⟨text, htext⟩ := hread p hmem hselected
    rw [findingsIn_of_readText htext] at he
    obtain ⟨d, hd, rfl⟩ := List.mem_map.mp he
    exact ⟨hmem, (selects_iff hpatterns).mp hselected, text, htext, hd⟩
  · rintro ⟨hmem, hselected, text, htext, hd⟩
    refine ⟨e.file, List.mem_filter.mpr ⟨hmem, (selects_iff hpatterns).mpr hselected⟩, ?_⟩
    rw [findingsIn_of_readText htext]
    exact List.mem_map.mpr ⟨e.diagnostic, hd, rfl⟩

/-- **Where the patterns can be read, an error names a selected file that cannot.** -/
theorem exists_unreadable_of_validateWalked_eq_error {e : LintError}
    (hpatterns : readPatterns config.exclude = .ok patterns)
    (h : validateWalked fs config files = .error e) :
    ∃ p ∈ files, IsSelected config p ∧ ∃ cause, fs.readText p = .error cause ∧
      e = .fileRead p cause := by
  rw [validateWalked_of_readPatterns_eq_ok hpatterns] at h
  cases hall : validateAll fs config (files.filter (selects config patterns)) with
  | ok found =>
    rw [hall] at h
    cases h
  | error e' =>
    rw [hall] at h
    obtain rfl : e' = e := Except.error.inj h
    obtain ⟨p, hp, hcause⟩ := exists_of_validateAll_eq_error hall
    obtain ⟨hmem, hselected⟩ := List.mem_filter.mp hp
    exact ⟨p, hmem, (selects_iff hpatterns).mp hselected, hcause⟩

theorem exists_validateWalked_eq_ok_iff :
    (∃ found, validateWalked fs config files = .ok found) ↔
      (∀ pattern ∈ config.exclude, IsWellFormed pattern) ∧
        ∀ p ∈ files, IsSelected config p → ∃ text, fs.readText p = .ok text := by
  constructor
  · rintro ⟨found, hfound⟩
    obtain ⟨patterns, hpatterns⟩ := exists_readPatterns_eq_ok hfound
    obtain ⟨hread, -⟩ := (validateWalked_eq_ok_iff hpatterns).mp hfound
    exact ⟨exists_readPatterns_eq_ok_iff.mp ⟨patterns, hpatterns⟩, fun p hp hselected =>
      hread p hp ((selects_iff hpatterns).mpr hselected)⟩
  · rintro ⟨hwell, hread⟩
    obtain ⟨patterns, hpatterns⟩ := exists_readPatterns_eq_ok_iff.mpr hwell
    exact ⟨_, validateWalked_eq hpatterns fun p hp hselected =>
      hread p hp ((selects_iff hpatterns).mp hselected)⟩

theorem isExact_validateWalked (fs : FileSystem) (config : Config) (files : List Text) :
    IsExact fs config files (validateWalked fs config files) where
  ok_iff := exists_validateWalked_eq_ok_iff
  whole _ h _ := mem_iff_of_validateWalked_eq_ok h
  malformed := by
    rintro ⟨malformed, hmem, hmalformed⟩
    rcases readPatterns_cases config.exclude with ⟨hwell, -⟩ |
      ⟨before, pattern, after, fault, hexclude, hbefore, hfault, herror⟩
    · exact absurd (hwell malformed hmem) hmalformed
    · exact ⟨before, pattern, after, fault, hexclude, hbefore, hfault,
        validateWalked_of_readPatterns_eq_error herror fs files⟩
  unreadable := by
    rintro hwell ⟨p, hp, hselected, cause, hcause⟩
    cases houtcome : validateWalked fs config files with
    | ok found =>
      obtain ⟨text, htext⟩ := (exists_validateWalked_eq_ok_iff.mp ⟨found, houtcome⟩).2 p hp hselected
      rw [hcause] at htext
      cases htext
    | error e =>
      obtain ⟨patterns, hpatterns⟩ := exists_readPatterns_eq_ok_iff.mpr hwell
      obtain ⟨q, hq, hselected, cause, hcause, rfl⟩ :=
        exists_unreadable_of_validateWalked_eq_error hpatterns houtcome
      exact ⟨q, hq, hselected, cause, hcause, rfl⟩
  unselected _ h := validateWalked_congr h

end

/-- **The errors of a project are exact, and a project is validated as a whole or not at all.**  This
holds of whatever entries a walk comes by, in any order, and of the entries that it does come by. -/
theorem outcome_exact (fs : FileSystem) (config : Config) :
    (∀ entries : List Text, IsExact fs config (entries.filter fs.isFile)
      (validateWalked fs config (entries.filter fs.isFile))) ∧
    ∀ path : Text, IsExact fs config (walk fs path) (validate fs config path) :=
  ⟨fun _ => isExact_validateWalked fs config _, fun _ => isExact_validateWalked fs config _⟩

/-- Of two files that may not be opened, the one that is selected fails the project. -/
example : validate ⟨.directory [("a.md".toList, .sealed), ("b.kro".toList, .sealed)], []⟩ {} ['.'] =
    .error (.fileRead "./b.kro".toList .denied) := rfl

end GraphLint.Project
