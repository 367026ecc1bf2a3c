import GraphLint.Command.Check
import Mathlib.Data.List.Forall2
/-! # The two forms of a report

The same findings are told to a reader and to a program.  Both reports have one entry for each
finding, in the order of the findings, and the entries about one finding tell the same of it
(`tellsTheSame_entry`); both count the findings of a severity, and the counts are those of the
entries (`countP_isOfLevel`).  The report for a reader is the one line that says so exactly if
there are no findings (`write_textReport_eq_iff`): whatever the names of the files are, a report
with findings ends in a rule that is longer than that line. -/
namespace GraphLint.Command
open Styled

/-! ## Entries -/

/-- Lines for a reader and an item for a program tell the same of a finding: after the name of the
file its place, how grave it is, the stage that found it, and its message. -/
def TellsTheSame (lines : Styled) (item : Json) : Prop :=
  ∃ (file rest : Text) (line column : Nat) (level source message : String),
    lines.bare = file ++ (":" ++ toString line ++ ":" ++ toString column ++ " " ++ level ++
      "[" ++ source ++ "]: " ++ message ++ "\n").toList ++ rest ∧
    item.field? "line" = some (.ofNat line) ∧ item.field? "column" = some (.ofNat column) ∧
    item.field? "level" = some (.string level) ∧ item.field? "source" = some (.string source) ∧
    item.field? "message" = some (.string message)

theorem tellsTheSame_entry (verbose : Bool) (base : Text) (f : FileDiagnostic) :
    TellsTheSame (findingLines verbose f) (Report.entry base f) := by
  refine ⟨f.file, (if verbose then detailLines f.diagnostic else []).bare,
    (f.diagnostic.range.start.line + 1).toNat, (f.diagnostic.range.start.character + 1).toNat,
    f.diagnostic.severity.word, f.diagnostic.stage.tag, f.diagnostic.message,
    ?_, rfl, rfl, rfl, rfl, rfl⟩
  simp only [findingLines, bare, textWithin, plain, within, fromOne, List.flatMap_append,
    List.flatMap_cons, List.flatMap_nil, List.append_nil, String.toList_append, List.append_assoc]

/-- Whether an item is about a finding of a severity. -/
def isOfLevel (level : String) (item : Json) : Bool :=
  (item.field? "level").bind Json.string? = some level

theorem isOfLevel_entry (severity : Severity) (base : Text) (f : FileDiagnostic) :
    isOfLevel severity.word (Report.entry base f) = [severity].contains f.diagnostic.severity := by
  have hlevel : ((Report.entry base f).field? "level").bind Json.string? =
      some f.diagnostic.severity.word := rfl
  rw [isOfLevel, hlevel]
  cases severity <;> cases f.diagnostic.severity <;> decide

/-- **A count of a severity is the number of items of that level.** -/
theorem countP_isOfLevel (severity : Severity) (base : Text) (found : List FileDiagnostic) :
    (found.map (Report.entry base)).countP (isOfLevel severity.word) =
      Report.countOf [severity] found := by
  rw [List.countP_map, Report.countOf]
  exact List.countP_congr fun f _ => by rw [Function.comp_apply, isOfLevel_entry]

/-! ## The report for a reader -/

/-- The report that nothing was found. -/
def cleanLine : Styled := within .good "✓ No issues found" ++ plain "\n"

/-- The end of a report with findings: a rule, and how many errors and warnings there are. -/
def footer (errors warnings : Nat) : Styled :=
  plain "\n" ++ textWithin .faint (List.replicate 60 '─') ++
    plain ("\nFound " ++ counted errors "error" ++ ", " ++ counted warnings "warning" ++ "\n")

section
variable {found : List FileDiagnostic}

theorem textReport_of_ne_nil (verbose : Bool) (h : found ≠ []) :
    textReport verbose found = (found.map (findingLines verbose)).flatten ++
      footer (Report.summarise found).errors (Report.summarise found).warnings := by
  have hempty : found.isEmpty = false := by simpa using h
  rw [textReport, hempty, if_neg Bool.false_ne_true, ← List.flatMap_def, footer]
  simp only [List.append_assoc]

theorem length_write_cleanLine (colours : Bool) : (cleanLine.write colours).length < 60 := by
  cases colours <;> decide

theorem sixty_le_length_write_footer (colours : Bool) (errors warnings : Nat) :
    60 ≤ ((footer errors warnings).write colours).length := by
  have hrule : 60 ≤ (writeRun colours ⟨some .faint, List.replicate 60 '─'⟩).length := by
    cases colours <;> decide
  simp only [footer, write, plain, textWithin, List.flatMap_append, List.flatMap_cons,
    List.flatMap_nil, List.append_nil, List.length_append]
  omega

/-- **The report for a reader is the line about no findings exactly if there are none.** -/
theorem write_textReport_eq_iff (colours verbose : Bool) :
    (textReport verbose found).write colours = cleanLine.write colours ↔ found = [] := by
  constructor
  · intro h
    apply Classical.byContradiction
    intro hne
    have hlong := sixty_le_length_write_footer colours (Report.summarise found).errors
      (Report.summarise found).warnings
    have hshort := length_write_cleanLine colours
    rw [textReport_of_ne_nil verbose hne, write, List.flatMap_append] at h
    rw [← h, List.length_append] at hshort
    exact absurd hlong (by unfold write; omega)
  · rintro rfl
    rfl

end
end GraphLint.Command
