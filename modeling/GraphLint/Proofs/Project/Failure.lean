import GraphLint.Proofs.Project.Result
/-! # When a project cannot be validated

A project is validated as a whole or not at all.  With exclude patterns that are well-formed
`validateWalked_eq_ok_iff` says what has to hold of the files for a result, and what the result then
is.  Nothing stands in the way but an `Obstacle`, which is a malformed pattern or a selected file that
cannot be read (`validateWalked_eq_error_iff`). -/
namespace GraphLint.Project
open Files

/-- What stands in the way of validating files. -/
inductive Obstacle (fs : FileSystem) (config : Config) (files : List Text) : Prop where
  /-- An exclude pattern is malformed. -/
  | malformed (pattern : Text) (fault : Pattern.Fault) (h : pattern ∈ config.exclude)
    (hfault : Pattern.read pattern = .error fault)
  /-- A selected file cannot be read. -/
  | unreadable (patterns : List (List Pattern.Piece)) (file : Text) (cause : FileError)
    (hpatterns : readPatterns config.exclude = .ok patterns) (h : file ∈ files)
    (hselected : selects config patterns file = true) (hcause : fs.readText file = .error cause)

section
variable {fs : FileSystem} {config : Config} {files : List Text} {found : List FileDiagnostic}

theorem readPatterns_cons_of_error {pattern : Text} {fault : Pattern.Fault}
    (h : Pattern.read pattern = .error fault) (rest : List Text) :
    readPatterns (pattern :: rest) = .error (.invalidExclude pattern fault.text) := by
  rw [readPatterns, h]

theorem readPatterns_cons_of_ok {pattern : Text} {pieces : List Pattern.Piece}
    (h : Pattern.read pattern = .ok pieces) (rest : List Text) :
    readPatterns (pattern :: rest) =
      (readPatterns rest >>= fun others => .ok (pieces :: others)) := by
  rw [readPatterns, h]
  rfl

theorem exists_readPatterns_eq_error_iff {texts : List Text} :
    (∃ e, readPatterns texts = .error e) ↔
      ∃ pattern ∈ texts, ∃ fault, Pattern.read pattern = .error fault := by
  induction texts with
  | nil => simp [readPatterns]
  | cons pattern rest ih =>
    rw [List.exists_mem_cons_iff, ← ih]
    cases hread : Pattern.read pattern with
    | error fault =>
      exact ⟨fun _ => Or.inl ⟨fault, rfl⟩, fun _ => ⟨_, readPatterns_cons_of_error hread rest⟩⟩
    | ok pieces =>
      rw [readPatterns_cons_of_ok hread]
      constructor
      · rintro ⟨e, he⟩
        cases hrest : readPatterns rest with
        | error e => exact Or.inr ⟨e, rfl⟩
        | ok others =>
          rw [hrest] at he
          cases he
      · rintro (⟨fault, hfault⟩ | ⟨e, he⟩)
        · cases hfault
        · exact ⟨e, by rw [he]; rfl⟩

theorem exists_validateAll_eq_error {path : Text} {cause : FileError} (h : path ∈ files)
    (haccepts : config.accepts path = true) (hcause : fs.readText path = .error cause) :
    ∃ e, validateAll fs config files = .error e := by
  induction files with
  | nil => cases h
  | cons first rest ih =>
    rw [validateAll]
    cases hfirst : validateFile fs config first with
    | error e => exact ⟨e, rfl⟩
    | ok found =>
      rcases List.mem_cons.mp h with rfl | h
      · rw [validateFile, if_pos haccepts, hcause] at hfirst
        cases hfirst
      · obtain ⟨e, he⟩ := ih h
        exact ⟨e, by rw [he]⟩

theorem exists_validateWalked_eq_error {patterns : List (List Pattern.Piece)} {path : Text}
    {cause : FileError} (hpatterns : readPatterns config.exclude = .ok patterns) (h : path ∈ files)
    (hselected : selects config patterns path = true) (hcause : fs.readText path = .error cause) :
    ∃ e, validateWalked fs config files = .error e := by
  obtain ⟨e, he⟩ := exists_validateAll_eq_error (List.mem_filter.mpr ⟨h, hselected⟩)
    (Bool.and_eq_true_iff.mp hselected).1 hcause
  refine ⟨e, ?_⟩
  rw [validateWalked_of_readPatterns_eq_ok hpatterns, he]
  rfl

/-- Either every selected file can be read, or there is one that cannot. -/
theorem readable_or_exists_unreadable (fs : FileSystem) (config : Config)
    (patterns : List (List Pattern.Piece)) (files : List Text) :
    (∀ p ∈ files, selects config patterns p = true → ∃ text, fs.readText p = .ok text) ∨
      ∃ p ∈ files, selects config patterns p = true ∧ ∃ cause, fs.readText p = .error cause := by
  by_cases hsome : ∃ p ∈ files, selects config patterns p = true ∧
      ∃ cause, fs.readText p = .error cause
  · exact Or.inr hsome
  · refine Or.inl fun p hp hselected => ?_
    cases hcause : fs.readText p with
    | ok text => exact ⟨text, rfl⟩
    | error cause => exact absurd ⟨p, hp, hselected, cause, hcause⟩ hsome

/-- **What there is to know about a result**, where the exclude patterns are well-formed: the selected
files are texts, and the findings about these are the result. -/
theorem validateWalked_eq_ok_iff {patterns : List (List Pattern.Piece)}
    (hpatterns : readPatterns config.exclude = .ok patterns) :
    validateWalked fs config files = .ok found ↔
      (∀ p ∈ files, selects config patterns p = true → ∃ text, fs.readText p = .ok text) ∧
      found = sort ((files.filter (selects config patterns)).flatMap (findingsIn fs config)) := by
  constructor
  · intro h
    rcases readable_or_exists_unreadable fs config patterns files with
      hread | ⟨p, hp, hselected, cause, hcause⟩
    · rw [validateWalked_eq hpatterns hread] at h
      exact ⟨hread, (Except.ok.inj h).symm⟩
    · obtain ⟨e, he⟩ := exists_validateWalked_eq_error hpatterns hp hselected hcause
      rw [he] at h
      cases h
  · rintro ⟨hread, rfl⟩
    exact validateWalked_eq hpatterns hread

/-- There is no result without well-formed patterns. -/
theorem exists_readPatterns_eq_ok (h : validateWalked fs config files = .ok found) :
    ∃ patterns, readPatterns config.exclude = .ok patterns := by
  cases hpatterns : readPatterns config.exclude with
  | error e =>
    rw [validateWalked_of_readPatterns_eq_error hpatterns] at h
    cases h
  | ok patterns => exact ⟨patterns, rfl⟩

/-- **Nothing but an obstacle is in the way of a result.** -/
theorem validateWalked_eq_error_iff :
    (∃ e, validateWalked fs config files = .error e) ↔ Obstacle fs config files := by
  constructor
  · rintro ⟨e, he⟩
    cases hpatterns : readPatterns config.exclude with
    | error e =>
      obtain ⟨pattern, hmem, fault, hfault⟩ := exists_readPatterns_eq_error_iff.mp ⟨e, hpatterns⟩
      exact .malformed pattern fault hmem hfault
    | ok patterns =>
      rcases readable_or_exists_unreadable fs config patterns files with
        hread | ⟨p, hp, hselected, cause, hcause⟩
      · rw [validateWalked_eq hpatterns hread] at he
        cases he
      · exact .unreadable patterns p cause hpatterns hp hselected hcause
  · intro h
    cases h with
    | malformed pattern fault hmem hfault =>
      obtain ⟨e, he⟩ := exists_readPatterns_eq_error_iff.mpr ⟨pattern, hmem, fault, hfault⟩
      exact ⟨e, validateWalked_of_readPatterns_eq_error he fs files⟩
    | unreadable patterns file cause hpatterns hmem hselected hcause =>
      exact exists_validateWalked_eq_error hpatterns hmem hselected hcause

/-- Whatever is found is found in a selected file, and by looking at its text. -/
theorem exists_mem_validate_of_mem (h : validateWalked fs config files = .ok found)
    {e : FileDiagnostic} (he : e ∈ found) : ∃ text, fs.readText e.file = .ok text ∧
      e.diagnostic ∈ Validation.validate config text := by
  obtain ⟨patterns, hpatterns⟩ := exists_readPatterns_eq_ok h
  obtain ⟨hread, rfl⟩ := (validateWalked_eq_ok_iff hpatterns).mp h
  obtain ⟨p, hp, he⟩ := List.mem_flatMap.mp ((sort_perm _).mem_iff.mp he)
  obtain ⟨hmem, hselected⟩ := List.mem_filter.mp hp
  obtain ⟨text, htext⟩ := hread p hmem hselected
  rw [findingsIn_of_readText htext] at he
  obtain ⟨d, hd, rfl⟩ := List.mem_map.mp he
  exact ⟨text, htext, hd⟩

end
end GraphLint.Project
