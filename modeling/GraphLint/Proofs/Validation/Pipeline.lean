import GraphLint.Validation
import GraphLint.Proofs.Expression.Locator
import GraphLint.Proofs.Schema.Findings
import Mathlib.Data.List.Forall2
/-! # What validation reports

The judgement on the form of the neutralised text comes first, and it may be any judgement here.  If
it is bad, it is all that is reported.  If it is good, the findings about expressions stand first,
one for every span that fails its checks under a rule that is reported and in the order of the
spans, and those about the fields of a graph definition follow. -/
namespace GraphLint.Validation
open Expression (Span Problem spans spanOf linePairs)

variable {config : Config} {text : Text}

/-! ## Findings about expressions -/

/-- Whether a finding about a span is wanted: the span fails its checks, expressions are looked at,
and the rule of the first failure is reported. -/
def isReported (config : Config) (span : Span) : Bool :=
  match Expression.check span.body with
  | .ok () => false
  | .error problem => config.rules.expressions && config.enables problem.rule

/-- A diagnostic tells what is wrong with a span, and where the span stands. -/
def Describes (span : Span) (d : Diagnostic) : Prop :=
  ∃ problem, Expression.check span.body = .error problem ∧
    d = .ofError span.range .cel problem.rule ("CEL Expression Error: " ++ problem.message)

theorem exists_checkSpan_eq_some {span : Span} (h : isReported config span = true) :
    ∃ d, checkSpan config span = some d ∧ Describes span d := by
  unfold isReported at h
  cases hp : Expression.check span.body with
  | ok _ =>
    rw [hp] at h
    cases h
  | error problem =>
    rw [hp] at h
    have hrule := (Bool.and_eq_true_iff.mp h).2
    refine ⟨_, ?_, problem, hp, rfl⟩
    rw [checkSpan, hp]
    exact if_pos hrule

theorem checkSpan_eq_none {span : Span} (hon : config.rules.expressions = true)
    (h : isReported config span = false) : checkSpan config span = none := by
  unfold isReported at h
  unfold checkSpan
  cases hp : Expression.check span.body with
  | ok _ => rfl
  | error problem =>
    rw [hp] at h
    have hrule : ¬ config.enables problem.rule = true := by simpa [hon] using h
    exact if_neg hrule

/-- **There is one finding for each span that is to be reported**, in the order of the spans. -/
theorem describes_checkExpressions (config : Config) (text : Text) :
    List.Forall₂ Describes ((spans text).filter (isReported config))
      (checkExpressions config text) := by
  unfold checkExpressions
  by_cases hon : config.rules.expressions = true
  · rw [if_pos hon]
    induction spans text with
    | nil => exact List.Forall₂.nil
    | cons span rest ih =>
      cases h : isReported config span with
      | true =>
        obtain ⟨d, hd, hdesc⟩ := exists_checkSpan_eq_some h
        rw [List.filter_cons_of_pos h, List.filterMap_cons_some hd]
        exact List.Forall₂.cons hdesc ih
      | false =>
        have hnone := checkSpan_eq_none hon h
        rw [List.filter_cons_of_neg (by rw [h]; exact Bool.false_ne_true),
          List.filterMap_cons_none hnone]
        exact ih
  · have hno : (spans text).filter (isReported config) = [] := by
      rw [List.filter_eq_nil_iff]
      intro span _
      unfold isReported
      split <;> simp [hon]
    rw [if_neg hon, hno]
    exact List.Forall₂.nil

/-- A finding has the range of the span it tells about. -/
theorem map_range_eq_of_describes {ss : List Span} {ds : List Diagnostic}
    (h : List.Forall₂ Describes ss ds) : ds.map (·.range) = ss.map (·.range) := by
  induction h with
  | nil => rfl
  | cons hd _ ih =>
    obtain ⟨problem, _, rfl⟩ := hd
    rw [List.map_cons, List.map_cons, ih]
    rfl

theorem exists_describes_of_mem {ss : List Span} {ds : List Diagnostic} {d : Diagnostic}
    (h : List.Forall₂ Describes ss ds) (hd : d ∈ ds) : ∃ span ∈ ss, Describes span d := by
  induction h with
  | nil => cases hd
  | @cons span _ _ _ hfirst _ ih =>
    rcases List.mem_cons.mp hd with rfl | hd
    · exact ⟨span, List.mem_cons_self, hfirst⟩
    · obtain ⟨other, hother, hdesc⟩ := ih hd
      exact ⟨other, List.mem_cons_of_mem _ hother, hdesc⟩

/-- The findings about expressions stand at pairs of lines, listed in the order of the text. -/
theorem exists_map_range_checkExpressions (config : Config) (text : Text) :
    ∃ ls, List.Sublist ls (linePairs text) ∧
      (checkExpressions config text).map (·.range) = ls.map fun l => (spanOf l.1 l.2).range := by
  refine ⟨(linePairs text).filter fun l => isReported config (spanOf l.1 l.2),
    List.filter_sublist, ?_⟩
  rw [map_range_eq_of_describes (describes_checkExpressions config text),
    Expression.spans_eq_map_linePairs, List.filter_map, List.map_map]
  simp only [Function.comp_def]

/-! ## The stages together -/

/-- What is found in a text of good form: findings about expressions and about fields. -/
structure Findings (config : Config) (text : Text) (cel fields : List Diagnostic) : Prop where
  /-- Each span that is to be reported has one finding, which has its range and the rule of its
  first failure. -/
  described : List.Forall₂ Describes ((spans text).filter (isReported config)) cel
  /-- The findings start at places in strictly increasing order, as words. -/
  starts : ∃ places : List (Nat × Nat),
    places.Pairwise (fun a b => a.1 < b.1 ∨ a.1 = b.1 ∧ a.2 < b.2) ∧
      cel.map (·.range.start) = places.map fun a => .ofNat a.1 a.2
  /-- So they do in the order of positions, where no word wraps round. -/
  ordered : text.Addressable → cel.Pairwise fun d e => d.range.start.Precedes e.range.start
  fields_stage : ∀ d ∈ fields, d.stage = .schema
  severity : ∀ d ∈ cel ++ fields, d.severity = .error
  /-- Every finding stands on one line of the text. -/
  inside : text.Addressable → ∀ d ∈ cel ++ fields, d.range.LiesIn text

theorem findings_check (config : Config) (text : Text) :
    Findings config text (checkExpressions config text) (Schema.check config text) := by
  have hdesc := describes_checkExpressions config text
  have hfields : ∀ d ∈ Schema.check config text, ∃ rule ∈ Schema.rules,
      Schema.IsFinding text rule d := fun d hd =>
    Schema.isFinding_of_mem_findings (Schema.mem_findings_of_mem_check hd)
  obtain ⟨ls, hls, hrange⟩ := exists_map_range_checkExpressions config text
  constructor
  case described => exact hdesc
  case starts =>
    refine ⟨ls.map fun l => (l.1, l.2.start), ?_, ?_⟩
    · rw [List.pairwise_map]
      exact (Expression.linePairs_starts_pairwise text).sublist hls
    · have := congrArg (List.map (·.start)) hrange
      rw [List.map_map, List.map_map] at this
      rw [List.map_map]
      exact this
  case ordered =>
    intro ht
    have hpair : (ls.map fun l => (spanOf l.1 l.2).range).Pairwise fun r s =>
        r.start.Precedes s.start := by
      rw [List.pairwise_map]
      exact ((Expression.linePairs_starts_pairwise text).sublist hls).imp_of_mem
        fun ha hb h => Expression.precedes_spanOf ht (hls.subset ha) (hls.subset hb) h
    rw [← hrange, List.pairwise_map] at hpair
    exact hpair
  case fields_stage =>
    intro d hd
    obtain ⟨_, _, hd⟩ := hfields d hd
    exact hd.stage
  case severity =>
    intro d hd
    rcases List.mem_append.mp hd with hd | hd
    · obtain ⟨_, _, _, _, rfl⟩ := exists_describes_of_mem hdesc hd
      rfl
    · obtain ⟨_, _, hd⟩ := hfields d hd
      exact hd.severity
  case inside =>
    -- a finding about an expression has the range of a pair of a line, any other one is anchored
    intro ht d hd
    rcases List.mem_append.mp hd with hd | hd
    · have hmem := List.mem_map_of_mem (f := (·.range)) hd
      rw [hrange] at hmem
      obtain ⟨l, hl, heq⟩ := List.mem_map.mp hmem
      exact heq ▸ Expression.liesIn_spanOf ht (hls.subset hl)
    · obtain ⟨_, _, hd⟩ := hfields d hd
      exact hd.anchor.liesIn ht

theorem validateBy_of_error {verdict : Verdict} {e : Yaml.FormError}
    (h : verdict (Expression.neutralise text) = .error e) (config : Config) :
    validateBy verdict config text = [.ofError (.fullLine text e.line) .yaml "yaml::syntax"
      ("YAML Syntax Error: " ++ e.message)] := by
  rw [validateBy, checkForm, h]

theorem validateBy_of_ok {verdict : Verdict} (h : verdict (Expression.neutralise text) = .ok ())
    (config : Config) :
    validateBy verdict config text = checkExpressions config text ++ Schema.check config text := by
  rw [validateBy, checkForm, h]

/-- **What validation reports**, whatever the judgement on the form is: a bad form alone, or else
the findings about expressions and fields. -/
theorem validateBy_outcome (verdict : Verdict) (config : Config) (text : Text) :
    match verdict (Expression.neutralise text) with
    | .error e => ∃ d, validateBy verdict config text = [d] ∧ d.stage = .yaml ∧
        d.rule = "yaml::syntax" ∧ d.message = "YAML Syntax Error: " ++ e.message
    | .ok () => ∃ cel fields, validateBy verdict config text = cel ++ fields ∧
        Findings config text cel fields := by
  cases h : verdict (Expression.neutralise text) with
  | error e => exact ⟨_, validateBy_of_error h config, rfl, rfl, rfl⟩
  | ok _ => exact ⟨_, _, validateBy_of_ok h config, findings_check config text⟩

/-- Whatever is found is an error. -/
theorem severity_of_mem_validateBy {verdict : Verdict} {d : Diagnostic}
    (h : d ∈ validateBy verdict config text) : d.severity = .error := by
  cases hv : verdict (Expression.neutralise text) with
  | error e =>
    rw [validateBy_of_error hv] at h
    rw [List.mem_singleton.mp h]
    rfl
  | ok _ =>
    rw [validateBy_of_ok hv] at h
    exact (findings_check config text).severity d h

end GraphLint.Validation
