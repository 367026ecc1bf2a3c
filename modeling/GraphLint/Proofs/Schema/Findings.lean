import GraphLint.Schema
import GraphLint.Proofs.Position
/-! # What a finding about the fields of a text looks like

The two fields of fixed value and the two blocks report under six rules.  A finding stands at the
start of the text or fills one of its lines, so it lies in the text even where the search for the
header of a block finds none. -/
namespace GraphLint.Schema

/-- The rules about the fields of a graph definition, in the order in which they are looked at. -/
def rules : List String :=
  [kind.rule, apiVersion.rule, metadata.rule, spec.rule, metadata.childRule, spec.childRule]

theorem inCategory_of_mem_rules {rule : String} (h : rule ∈ rules) :
    Config.inCategory "schema" rule = true ∧ Config.inCategory "yaml" rule = false ∧
      Config.inCategory "cel" rule = false := by
  revert rule
  decide

/-- The start of a text, or one of its lines. -/
inductive Anchor (text : Text) : Range → Prop where
  | start : Anchor text (.lineStart 0)
  | line {i : Nat} (h : i < (Text.lines text).length) : Anchor text (.fullLine text (.ofNat i))

theorem Anchor.liesIn {text : Text} (ht : text.Addressable) {r : Range} (h : Anchor text r) :
    r.LiesIn text := by
  cases h with
  | start => exact Range.liesIn_lineStart_zero text
  | line hi => exact Range.liesIn_fullLine ht hi

/-- The search for a header gives the number of a line, whether or not it finds one. -/
theorem headerLine_lt (name : String) (text : Text) :
    headerLine name (Text.lines text) < (Text.lines text).length := by
  unfold headerLine
  cases h : (Text.lines text).findIdx? fun line => Text.trim line == header name with
  | none =>
    -- the search answers the first line then, and there always is one
    exact List.length_pos_of_ne_nil (Text.lines_ne_nil text)
  | some i => exact (List.findIdx?_eq_some_iff_getElem.mp h).1

/-- A diagnostic about a field of a text, under a given rule. -/
structure IsFinding (text : Text) (rule : String) (d : Diagnostic) : Prop where
  stage : d.stage = .schema
  severity : d.severity = .error
  rule_eq : d.rule = rule
  anchor : Anchor text d.range

section
variable {text : Text} {d : Diagnostic}

theorem isFinding_finding {r : Range} (h : Anchor text r) (rule message suggestion : String) :
    IsFinding text rule (finding r rule message suggestion) :=
  ⟨rfl, rfl, rfl, h⟩

theorem FixedField.isFinding_of_mem_findings {f : FixedField} (h : d ∈ f.findings text) :
    IsFinding text f.rule d := by
  unfold FixedField.findings at h
  split at h
  · rw [List.mem_singleton.mp h]
    exact isFinding_finding .start ..
  · split at h
    · cases h
    · rw [List.mem_singleton.mp h]
      exact isFinding_finding .start ..

theorem Block.isFinding_of_mem_findings {b : Block} (h : d ∈ b.findings text) :
    IsFinding text b.rule d := by
  unfold Block.findings at h
  split at h
  · cases h
  · rw [List.mem_singleton.mp h]
    exact isFinding_finding .start ..

theorem Block.isFinding_of_mem_childFindings {b : Block} (h : d ∈ b.childFindings text) :
    IsFinding text b.childRule d := by
  unfold Block.childFindings at h
  split at h
  · cases h
  · split at h
    · cases h
    · rw [List.mem_singleton.mp h]
      exact isFinding_finding (.line (headerLine_lt b.name text)) ..

/-- **Every finding about the fields is one under one of their rules.** -/
theorem isFinding_of_mem_findings (h : d ∈ findings text) :
    ∃ rule ∈ rules, IsFinding text rule d := by
  simp only [findings, List.mem_append] at h
  rcases h with ((((h | h) | h) | h) | h) | h
  · exact ⟨_, by simp [rules], FixedField.isFinding_of_mem_findings h⟩
  · exact ⟨_, by simp [rules], FixedField.isFinding_of_mem_findings h⟩
  · exact ⟨_, by simp [rules], Block.isFinding_of_mem_findings h⟩
  · exact ⟨_, by simp [rules], Block.isFinding_of_mem_findings h⟩
  · exact ⟨_, by simp [rules], Block.isFinding_of_mem_childFindings h⟩
  · exact ⟨_, by simp [rules], Block.isFinding_of_mem_childFindings h⟩

/-! ## Each rule once -/

theorem FixedField.map_rule_findings_sublist (f : FixedField) (text : Text) :
    ((f.findings text).map (·.rule)).Sublist [f.rule] := by
  unfold FixedField.findings
  split
  · exact List.Sublist.refl _
  · split
    · exact List.nil_sublist _
    · exact List.Sublist.refl _

theorem Block.map_rule_findings_sublist (b : Block) (text : Text) :
    ((b.findings text).map (·.rule)).Sublist [b.rule] := by
  unfold Block.findings
  split
  · exact List.nil_sublist _
  · exact List.Sublist.refl _

theorem Block.map_rule_childFindings_sublist (b : Block) (text : Text) :
    ((b.childFindings text).map (·.rule)).Sublist [b.childRule] := by
  unfold Block.childFindings
  split
  · exact List.nil_sublist _
  · split
    · exact List.nil_sublist _
    · exact List.Sublist.refl _

/-- **Every rule is reported at most once**, and the rules come in their fixed order. -/
theorem map_rule_findings_sublist (text : Text) :
    ((findings text).map (·.rule)).Sublist rules := by
  simp only [findings, List.map_append]
  exact (((((kind.map_rule_findings_sublist text).append
    (apiVersion.map_rule_findings_sublist text)).append
    (metadata.map_rule_findings_sublist text)).append
    (spec.map_rule_findings_sublist text)).append
    (metadata.map_rule_childFindings_sublist text)).append
    (spec.map_rule_childFindings_sublist text)

theorem rules_nodup : rules.Nodup := by decide

/-- Switching rules off only takes findings away. -/
theorem mem_findings_of_mem_check {config : Config} (h : d ∈ check config text) :
    d ∈ findings text := by
  unfold check at h
  split at h
  · exact (List.mem_filter.mp h).1
  · cases h

/-- No two of the findings that are reported have the same rule. -/
theorem check_pairwise_rule_ne (config : Config) (text : Text) :
    (check config text).Pairwise fun d e => d.rule ≠ e.rule := by
  have hall : (findings text).Pairwise fun d e => d.rule ≠ e.rule :=
    List.pairwise_map.mp (rules_nodup.sublist (map_rule_findings_sublist text))
  unfold check
  split
  · exact hall.sublist List.filter_sublist
  · exact List.Pairwise.nil

end
end GraphLint.Schema
