import GraphLint.Proofs.Validation.Pipeline
/-! # A configuration is a filter

Whether a rule is reported is asked in several places: a category may be switched off as a whole, a
span is passed over if the rule of its first failure is not reported, and the findings about fields
are sifted at the end.  All of these come to one question about each finding, which is
`Config.enables`, so a configuration only takes findings away from what the standard one reports.  A
bad form is always reported. -/
namespace GraphLint

namespace Config
variable (config : Config) {rule : String}

/-- The standard configuration reports every rule. -/
theorem enables_default (rule : String) : ({} : Config).enables rule = true := by
  unfold enables
  split
  · rfl
  · split
    · contradiction
    · split
      · rfl
      · split <;> rfl

theorem enables_of_yaml (hy : inCategory "yaml" rule = true) : config.enables rule = true :=
  if_pos hy

theorem enables_of_cel (hc : inCategory "cel" rule = true) (hy : inCategory "yaml" rule = false) :
    config.enables rule =
      (!config.rules.disabledRules.contains rule && config.rules.expressions) := by
  unfold enables
  rw [hc, hy]
  cases config.rules.disabledRules.contains rule <;> rfl

theorem enables_of_schema (hs : inCategory "schema" rule = true)
    (hy : inCategory "yaml" rule = false) (hc : inCategory "cel" rule = false) :
    config.enables rule = (!config.rules.disabledRules.contains rule && config.rules.schema) := by
  unfold enables
  rw [hs, hy, hc]
  cases config.rules.disabledRules.contains rule <;> rfl

end Config

namespace Expression.Problem

/-- The rules about expressions. -/
def rules : List String := ["cel::empty", "cel::delimiters", "cel::operators", "cel::ternary"]

theorem rule_mem_rules (problem : Problem) : problem.rule ∈ rules := by
  cases problem <;> simp [rules, rule]

theorem inCategory_of_mem_rules {rule : String} (h : rule ∈ rules) :
    Config.inCategory "cel" rule = true ∧ Config.inCategory "yaml" rule = false := by
  revert rule
  decide

end Expression.Problem

namespace Validation
variable (config : Config) (text : Text)

/-- A finding about a span is passed over exactly if its rule is not reported. -/
theorem checkSpan_eq_filter (span : Expression.Span) :
    checkSpan config span = (checkSpan {} span).filter fun d => config.enables d.rule := by
  unfold checkSpan
  split
  · rfl
  · -- the standard configuration keeps the finding, so it is the filter that asks
    rename_i problem _
    rw [if_pos (Config.enables_default _)]
    rfl

theorem checkExpressions_eq_filter : checkExpressions config text =
    (checkExpressions {} text).filter fun d => config.enables d.rule := by
  have hall : checkExpressions {} text = (Expression.spans text).filterMap (checkSpan {}) := rfl
  rw [hall, List.filter_filterMap]
  simp only [← checkSpan_eq_filter]
  unfold checkExpressions
  by_cases hon : config.rules.expressions = true
  · rw [if_pos hon]
  · -- no rule of an expression is reported, so each span is passed over by itself
    rw [if_neg hon]
    symm
    rw [List.filterMap_eq_nil_iff]
    intro span _
    unfold checkSpan
    split
    · rfl
    · rename_i problem _
      obtain ⟨hc, hy⟩ := Expression.Problem.inCategory_of_mem_rules problem.rule_mem_rules
      rw [if_neg]
      rw [Config.enables_of_cel config hc hy, Bool.and_eq_true]
      exact fun h => hon h.2

/-- The standard configuration reports everything that is wrong with the fields. -/
theorem schemaCheck_default : Schema.check {} text = Schema.findings text := by
  unfold Schema.check
  rw [if_pos rfl]
  exact List.filter_eq_self.mpr fun d _ => Config.enables_default d.rule

theorem schemaCheck_eq_filter : Schema.check config text =
    (Schema.check {} text).filter fun d => config.enables d.rule := by
  rw [schemaCheck_default, Schema.check]
  by_cases hon : config.rules.schema = true
  · rw [if_pos hon]
  · rw [if_neg hon]
    symm
    rw [List.filter_eq_nil_iff]
    intro d hd
    obtain ⟨rule, hrule, hfinding⟩ := Schema.isFinding_of_mem_findings hd
    obtain ⟨hs, hy, hc⟩ := Schema.inCategory_of_mem_rules hrule
    rw [hfinding.rule_eq, Config.enables_of_schema config hs hy hc, Bool.and_eq_true]
    exact fun h => hon h.2

/-- The findings of the later stages break no rule about the form. -/
theorem inCategory_yaml_eq_false {d : Diagnostic}
    (h : d ∈ checkExpressions config text ++ Schema.check config text) :
    Config.inCategory "yaml" d.rule = false := by
  rcases List.mem_append.mp h with h | h
  · obtain ⟨_, _, problem, _, rfl⟩ :=
      exists_describes_of_mem (describes_checkExpressions config text) h
    exact (Expression.Problem.inCategory_of_mem_rules problem.rule_mem_rules).2
  · obtain ⟨rule, hrule, hfinding⟩ :=
      Schema.isFinding_of_mem_findings (Schema.mem_findings_of_mem_check h)
    rw [hfinding.rule_eq]
    exact (Schema.inCategory_of_mem_rules hrule).2.1

/-- **A configuration is a filter**, whatever the judgement on the form is. -/
theorem validateBy_eq_filter (verdict : Verdict) : validateBy verdict config text =
    (validateBy verdict {} text).filter fun d => config.enables d.rule := by
  cases h : verdict (Expression.neutralise text) with
  | error e =>
    rw [validateBy_of_error h, validateBy_of_error h, List.filter_cons_of_pos, List.filter_nil]
    exact config.enables_of_yaml (show Config.inCategory "yaml" "yaml::syntax" = true by decide)
  | ok _ =>
    rw [validateBy_of_ok h, validateBy_of_ok h, List.filter_append, ← checkExpressions_eq_filter,
      ← schemaCheck_eq_filter]

/-- **A configuration only sifts what the standard one reports**, and it never sifts out a bad form
or brings back what a bad form hides. -/
theorem validate_eq_filter : validate config text =
      (validate {} text).filter (fun d => config.enables d.rule) ∧
    ∀ d ∈ validate {} text, d.rule = "yaml::syntax" → validate config text = [d] := by
  refine ⟨validateBy_eq_filter config text Yaml.check, fun d hd hrule => ?_⟩
  unfold validate at hd ⊢
  cases h : Yaml.check (Expression.neutralise text) with
  | error e =>
    rw [validateBy_of_error h] at hd ⊢
    rw [List.mem_singleton.mp hd]
  | ok _ =>
    rw [validateBy_of_ok h] at hd
    have := inCategory_yaml_eq_false {} text hd
    rw [hrule] at this
    exact absurd this (by decide)

end Validation
end GraphLint
