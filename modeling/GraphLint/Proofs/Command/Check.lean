import GraphLint.Command.Program
import GraphLint.Proofs.Command.Report
import GraphLint.Proofs.Project.Failure
/-! # A check fails as a whole or reports everything

A check goes through its paths one after another, and any of them can fail it.  So can its report:
the one for a program names files from the working directory, which may have been removed.  What can
fail a check is the inductive type `Fails`, and nothing else does (`fails_iff`).  The findings are
collected and the report is made before anything is printed, so that a failure at a later path leaves
none of the findings at an earlier one in the output (`check_of_fails`).  A check that does not fail
has the findings of all paths (`collect_eq_ok_iff`) and reports them in the form that was asked for
(`check_of_findings`).  All of them are errors (`severity_of_mem_findings`); that is why the code the
program ends with, which only looks for errors, tells whether anything was found at all. -/
namespace GraphLint.Command
open Files Styled

/-! ## What can fail a check -/

/-- What fails a check. -/
inductive Fails (fs : FileSystem) (request : CheckRequest) : Prop where
  /-- The settings that were asked for cannot be used. -/
  | settings (path : Text) (error : LintError) (hconfig : request.config = some path)
    (herror : Config.load fs path = .error error)
  /-- Nothing is at a path. -/
  | missing (path : Text) (h : path ∈ request.paths) (hmissing : fs.exists? path = false)
  /-- An exclude pattern is malformed, or a selected file below a path cannot be read. -/
  | obstacle (config : Config) (path : Text) (hconfig : configFor fs request.config = .ok config)
    (h : path ∈ request.paths) (hobstacle : Project.Obstacle fs config (walk fs path))
  /-- Files are to be named from the working directory, and that was removed. -/
  | removed (hformat : request.format = .json) (hremoved : fs.workingPath? = none)

section
variable {fs : FileSystem} {config : Config} {paths : List Text} {found : List FileDiagnostic}
variable {request : CheckRequest}

/-- The first path gives what is below it, unless it fails the paths. -/
theorem collect_cons_of_validate {path : Text} {part : List FileDiagnostic}
    (hexists : fs.exists? path = true) (hpart : Project.validate fs config path = .ok part) :
    collect fs config (path :: paths) = (collect fs config paths >>= fun others =>
      .ok (part ++ others)) := by
  rw [collect, hexists, hpart]
  cases collect fs config paths <;> rfl

/-- Paths have findings exactly if each of them leads somewhere and is validated; the findings are
those of the paths, one path after another. -/
theorem collect_eq_ok_iff : collect fs config paths = .ok found ↔ ∃ parts,
    List.Forall₂ (fun path part => fs.exists? path = true ∧
      Project.validate fs config path = .ok part) paths parts ∧ found = parts.flatten := by
  induction paths generalizing found with
  | nil =>
    constructor
    · intro h
      exact ⟨[], .nil, (Except.ok.inj h).symm⟩
    · rintro ⟨parts, hparts, rfl⟩
      cases hparts
      rfl
  | cons path rest ih =>
    constructor
    · intro h
      cases hexists : fs.exists? path with
      | false =>
        rw [collect, hexists] at h
        cases h
      | true =>
        cases hpart : Project.validate fs config path with
        | error e =>
          rw [collect, hexists, hpart] at h
          cases h
        | ok part =>
          rw [collect_cons_of_validate hexists hpart] at h
          cases hrest : collect fs config rest with
          | error failure =>
            rw [hrest] at h
            cases h
          | ok others =>
            rw [hrest] at h
            obtain ⟨parts, hparts, rfl⟩ := ih.mp hrest
            exact ⟨part :: parts, .cons ⟨hexists, hpart⟩ hparts, (Except.ok.inj h).symm⟩
    · rintro ⟨parts, hparts, rfl⟩
      cases hparts with
      | cons hfirst hrest =>
        rw [collect_cons_of_validate hfirst.1 hfirst.2, ih.mpr ⟨_, hrest, rfl⟩]
        rfl

/-- Paths fail exactly if one of them leads nowhere or cannot be validated, whatever the paths
before it have given. -/
theorem exists_collect_eq_error_iff : (∃ failure, collect fs config paths = .error failure) ↔
    ∃ path ∈ paths, fs.exists? path = false ∨ Project.Obstacle fs config (walk fs path) := by
  induction paths with
  | nil =>
    constructor
    · rintro ⟨failure, h⟩
      cases h
    · rintro ⟨path, hmem, -⟩
      cases hmem
  | cons path rest ih =>
    rw [List.exists_mem_cons_iff, ← Project.validateWalked_eq_error_iff, ← ih]
    cases hexists : fs.exists? path with
    | false =>
      refine ⟨fun _ => .inl (.inl rfl), fun _ => ⟨.missingPath path, ?_⟩⟩
      rw [collect, hexists]
      rfl
    | true =>
      cases hpart : Project.validateWalked fs config (walk fs path) with
      | error e =>
        refine ⟨fun _ => .inl (.inr ⟨e, rfl⟩), fun _ => ⟨.lint e, ?_⟩⟩
        rw [collect, hexists, Project.validate, hpart]
        rfl
      | ok part =>
        rw [collect_cons_of_validate hexists hpart]
        cases hrest : collect fs config rest with
        | error failure => exact ⟨fun _ => .inr ⟨failure, rfl⟩, fun _ => ⟨failure, rfl⟩⟩
        | ok others =>
          constructor
          · rintro ⟨failure, h⟩
            cases h
          · rintro ((h | ⟨e, h⟩) | ⟨failure, h⟩) <;> cases h

theorem fails_of_findings_eq_error {failure : Failure} (h : findings fs request = .error failure) :
    Fails fs request := by
  cases hconfig : configFor fs request.config with
  | error e =>
    cases hpath : request.config with
    | none =>
      rw [hpath] at hconfig
      cases hconfig
    | some path =>
      rw [hpath] at hconfig
      exact .settings path e hpath hconfig
  | ok config =>
    rw [findings, hconfig] at h
    obtain ⟨path, hmem, hmissing | hobstacle⟩ := exists_collect_eq_error_iff.mp ⟨failure, h⟩
    · exact .missing path hmem hmissing
    · exact .obstacle config path hconfig hmem hobstacle

/-- A path that fails the paths of a check fails the check, unless its settings have done so. -/
theorem exists_findings_eq_error {path : Text} (hmem : path ∈ request.paths)
    (h : ∀ config, configFor fs request.config = .ok config →
      fs.exists? path = false ∨ Project.Obstacle fs config (walk fs path)) :
    ∃ failure, findings fs request = .error failure := by
  rw [findings]
  cases hconfig : configFor fs request.config with
  | error e => exact ⟨.lint e, rfl⟩
  | ok config => exact exists_collect_eq_error_iff.mpr ⟨path, hmem, h config hconfig⟩

/-- **Nothing but what is listed fails a check**: there are no findings, or no place that files are
named from. -/
theorem fails_iff : Fails fs request ↔ (∃ failure, findings fs request = .error failure) ∨
    request.format = .json ∧ fs.workingPath? = none := by
  constructor
  · intro h
    cases h with
    | settings path e hpath herror =>
      refine .inl ⟨.lint e, ?_⟩
      rw [findings, hpath, configFor, herror]
    | missing path hmem hmissing =>
      exact .inl (exists_findings_eq_error hmem fun _ _ => .inl hmissing)
    | obstacle config path hconfig hmem hobstacle =>
      refine .inl (exists_findings_eq_error hmem fun config' hconfig' => .inr ?_)
      -- the settings of the obstacle are those of the request
      rw [hconfig] at hconfig'
      cases hconfig'
      exact hobstacle
    | removed hformat hremoved => exact .inr ⟨hformat, hremoved⟩
  · rintro (⟨failure, h⟩ | ⟨hformat, hremoved⟩)
    · exact fails_of_findings_eq_error h
    · exact .removed hformat hremoved

/-- **Whatever fails a check, nothing is printed to the output.** -/
theorem check_of_fails (h : Fails fs request) :
    (check fs request).exitCode = 1 ∧ (check fs request).output = [] := by
  rcases fails_iff.mp h with ⟨failure, hfailure⟩ | ⟨hformat, hremoved⟩
  · rw [check, hfailure]
    exact ⟨rfl, rfl⟩
  · rw [check]
    cases findings fs request with
    | error failure => exact ⟨rfl, rfl⟩
    | ok found =>
      simp only [report, hformat, jsonReport, hremoved]
      exact ⟨rfl, rfl⟩

/-- A check that nothing fails prints its report. -/
theorem check_of_findings (h : findings fs request = .ok found) (hfails : ¬Fails fs request) :
    ∃ output, report fs request found = .ok output ∧
      check fs request = ⟨if found.any isError then 1 else 0, output, []⟩ := by
  cases hreport : report fs request found with
  | ok output =>
    refine ⟨output, rfl, ?_⟩
    rw [check, h]
    simp only [hreport]
  | error failure =>
    -- only the form for a program has no report, and only without a working directory
    cases hformat : request.format with
    | text =>
      rw [report, hformat] at hreport
      cases hreport
    | json =>
      cases hbase : fs.workingPath? with
      | none => exact absurd (.removed hformat hbase) hfails
      | some base =>
        simp only [report, hformat, jsonReport, hbase] at hreport
        cases hreport

/-- The findings of a check of one path are those of the project below it. -/
theorem exists_validate_of_findings {path : Text} (hpaths : request.paths = [path])
    (h : findings fs request = .ok found) : ∃ config, configFor fs request.config = .ok config ∧
      fs.exists? path = true ∧ Project.validate fs config path = .ok found := by
  cases hconfig : configFor fs request.config with
  | error e =>
    rw [findings, hconfig] at h
    cases h
  | ok config =>
    rw [findings, hconfig, hpaths] at h
    obtain ⟨parts, hparts, rfl⟩ := collect_eq_ok_iff.mp h
    cases hparts with
    | cons hfirst hrest =>
      cases hrest
      rw [List.flatten_singleton]
      exact ⟨config, rfl, hfirst⟩

/-! ## What a check reports -/

theorem severity_of_mem_collect (h : collect fs config paths = .ok found) {f : FileDiagnostic}
    (hf : f ∈ found) : f.diagnostic.severity = .error := by
  obtain ⟨parts, hparts, rfl⟩ := collect_eq_ok_iff.mp h
  clear h
  induction hparts with
  | nil => cases hf
  | cons hfirst _ ih =>
    rw [List.flatten_cons, List.mem_append] at hf
    rcases hf with hf | hf
    · obtain ⟨text, -, hd⟩ := Project.exists_mem_validate_of_mem hfirst.2 hf
      exact Validation.severity_of_mem_validateBy hd
    · exact ih hf

/-- Whatever a check finds is an error. -/
theorem severity_of_mem_findings (h : findings fs request = .ok found) {f : FileDiagnostic}
    (hf : f ∈ found) : f.diagnostic.severity = .error := by
  cases hconfig : configFor fs request.config with
  | error e =>
    rw [findings, hconfig] at h
    cases h
  | ok config =>
    rw [findings, hconfig] at h
    exact severity_of_mem_collect h hf

/-- The program ends with the code of a success exactly if nothing was found. -/
theorem any_isError_eq (h : findings fs request = .ok found) :
    found.any isError = !found.isEmpty := by
  cases found with
  | nil => rfl
  | cons f rest =>
    have hfirst : isError f = true := by
      rw [isError, severity_of_mem_findings h List.mem_cons_self]
      rfl
    rw [List.any_cons, hfirst]
    rfl

/-- What the two forms of a check say about findings. -/
structure Reported (fs : FileSystem) (request : CheckRequest) (found : List FileDiagnostic) :
    Prop where
  /-- The findings are those at the paths, one path after another. -/
  concatenated : ∃ config parts, configFor fs request.config = .ok config ∧
    List.Forall₂ (fun path part => fs.exists? path = true ∧
      Project.validate fs config path = .ok part) request.paths parts ∧ found = parts.flatten
  /-- Nothing fails either form, but that there may be no working directory for one of them. -/
  fails_iff : ∀ format,
    Fails fs { request with format } ↔ format = .json ∧ fs.workingPath? = none
  /-- The forms that nothing fails end with the same code, and it tells whether there are
  findings. -/
  exitCode_eq : ∀ format, ¬Fails fs { request with format } →
    (check fs { request with format }).exitCode = if found = [] then 0 else 1
  /-- The form for a reader is the line about no findings exactly if there are none. -/
  write_eq_cleanLine_iff : ∀ colours,
    (check fs { request with format := .text }).output.write colours = cleanLine.write colours ↔
      found = []
  /-- The form for a program is a value with items and a summary, and the form for a reader has an
  entry for each of the items, in the same order, and ends in the counts of the summary; the counts
  are those of the items. -/
  agree : ¬Fails fs { request with format := .json } →
    ∃ (value summary : Json) (items : List Json) (errors warnings : Nat),
      (∀ colours, (check fs { request with format := .json }).output.write colours =
        Json.pretty 0 value ++ ['\n']) ∧
      value.field? "diagnostics" = some (.array items) ∧ value.field? "summary" = some summary ∧
      summary.field? "errors" = some (.ofNat errors) ∧
      summary.field? "warnings" = some (.ofNat warnings) ∧
      items.length = found.length ∧ items.countP (isOfLevel "error") = errors ∧
      items.countP (isOfLevel "warning") = warnings ∧
      (found ≠ [] → ∃ entries : List Styled,
        (check fs { request with format := .text }).output =
          entries.flatten ++ footer errors warnings ∧
        List.Forall₂ TellsTheSame entries items)

theorem reported_of_findings (h : findings fs request = .ok found) :
    Reported fs request found where
  concatenated := by
    cases hconfig : configFor fs request.config with
    | error e =>
      rw [findings, hconfig] at h
      cases h
    | ok config =>
      rw [findings, hconfig] at h
      obtain ⟨parts, hparts⟩ := collect_eq_ok_iff.mp h
      exact ⟨config, parts, rfl, hparts⟩
  fails_iff format := by
    have hfound : findings fs { request with format } = .ok found := h
    rw [Command.fails_iff, hfound]
    exact or_iff_right nofun
  exitCode_eq format hfails := by
    have hfound : findings fs { request with format } = .ok found := h
    obtain ⟨output, -, hcheck⟩ := check_of_findings hfound hfails
    rw [hcheck]
    show (if found.any isError then 1 else 0) = _
    rw [any_isError_eq h]
    cases found <;> rfl
  write_eq_cleanLine_iff colours := by
    have hfound : findings fs { request with format := .text } = .ok found := h
    rw [check, hfound]
    exact write_textReport_eq_iff colours request.verbose
  agree hfails := by
    have htext : findings fs { request with format := .text } = .ok found := h
    have hfound : findings fs { request with format := .json } = .ok found := h
    obtain ⟨output, hreport, hjson⟩ := check_of_findings hfound hfails
    cases hbase : fs.workingPath? with
    | none => exact absurd (.removed rfl hbase) hfails
    | some base =>
      refine ⟨Report.toJson base found, _, _, _, _, fun colours => ?_, rfl, rfl, rfl,
        rfl, List.length_map _, countP_isOfLevel .error _ _, countP_isOfLevel .warning _ _,
        fun hne => ⟨found.map (findingLines request.verbose), ?_, ?_⟩⟩
      · simp only [report, jsonReport, hbase] at hreport
        cases hreport
        rw [hjson]
        exact List.append_nil _
      · rw [check, htext]
        exact textReport_of_ne_nil request.verbose hne
      · rw [List.forall₂_map_left_iff, List.forall₂_map_right_iff, List.forall₂_same]
        exact fun f _ => tellsTheSame_entry request.verbose _ f

/-- **A check is all or nothing, and its two forms agree.**  Either something fails it, and then
nothing is printed to the output; or nothing does, and then both forms report the same findings, as
far as there is a working directory for the one that needs it. -/
theorem check_all_or_nothing (fs : FileSystem) (request : CheckRequest) :
    (Fails fs request ∧ (check fs request).exitCode = 1 ∧ (check fs request).output = []) ∨
      (¬Fails fs request ∧ ∃ found, Reported fs request found) := by
  by_cases hfails : Fails fs request
  · exact .inl ⟨hfails, check_of_fails hfails⟩
  · refine .inr ⟨hfails, ?_⟩
    cases h : findings fs request with
    | error failure => exact absurd (fails_of_findings_eq_error h) hfails
    | ok found => exact ⟨found, reported_of_findings h⟩

/-- Without a working directory a check of the root prints that it has found nothing, but not to a
program. -/
example :
    (check ⟨.directory [], [['w']]⟩ { paths := [['/']] }).exitCode = 0 ∧
      (check ⟨.directory [], [['w']]⟩ { paths := [['/']], format := .json }).exitCode = 1 := by
  decide +kernel

end
end GraphLint.Command
