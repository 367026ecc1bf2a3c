import GraphLint.Proofs.Validation.Filter
/-! # No two findings about a text are alike

Within one text a finding is known by its start and its rule.  Findings about expressions start at
different places, since their spans do not overlap; findings about fields have different rules,
since each rule is looked at once; and no rule is about both. -/
namespace GraphLint.Validation

variable {text : Text}

/-- Two findings start at different places or have different rules. -/
def Differ (d e : Diagnostic) : Prop := d.range.start ≠ e.range.start ∨ d.rule ≠ e.rule

theorem Differ.symm {d e : Diagnostic} (h : Differ d e) : Differ e d := h.imp Ne.symm Ne.symm

/-- A finding about an expression has another rule than a finding about a field. -/
theorem rule_ne_of_mem {config : Config} {d e : Diagnostic} (hd : d ∈ checkExpressions config text)
    (he : e ∈ Schema.check config text) : d.rule ≠ e.rule := by
  obtain ⟨_, _, problem, _, rfl⟩ :=
    exists_describes_of_mem (describes_checkExpressions config text) hd
  obtain ⟨rule, hrule, hfinding⟩ :=
    Schema.isFinding_of_mem_findings (Schema.mem_findings_of_mem_check he)
  have hcel := (Expression.Problem.inCategory_of_mem_rules problem.rule_mem_rules).1
  have hnot := (Schema.inCategory_of_mem_rules hrule).2.2
  intro heq
  rw [hfinding.rule_eq] at heq
  rw [← heq] at hnot
  exact Bool.false_ne_true (hnot.symm.trans hcel)

/-- **The findings about a text differ pairwise** in their start or in their rule. -/
theorem validateBy_pairwise_differ (verdict : Verdict) (config : Config) (ht : text.Addressable) :
    (validateBy verdict config text).Pairwise Differ := by
  cases h : verdict (Expression.neutralise text) with
  | error e =>
    rw [validateBy_of_error h]
    exact List.pairwise_singleton _ _
  | ok _ =>
    rw [validateBy_of_ok h, List.pairwise_append]
    refine ⟨?_, ?_, fun d hd e he => Or.inr (rule_ne_of_mem hd he)⟩
    · exact ((findings_check config text).ordered ht).imp fun hlt => Or.inl hlt.ne
    · exact (Schema.check_pairwise_rule_ne config text).imp Or.inr

end GraphLint.Validation
