import GraphLint.Proofs.Schema.Value
import GraphLint.Proofs.Text.LineEnds
/-! # What is reported under each rule

The findings about a text come rule by rule, each part under its own rule (`findingsByRule`), so what is
reported under a rule is the part of that rule, or nothing if the rule is switched off
(`reported_eq`).  With this a question about a rule is a question about one part.

A part is empty or a single finding, and some parts exclude each other.  A block that lacks its field is
there, so its name occurs in the text and it is not missing itself
(`Block.findings_eq_nil_or_childFindings_eq_nil`).  In the same way a line that gives a field its value
holds the name of the field, so a field is not reported as missing where its value is found
(`isInfix_of_isGivenBy`). -/
namespace GraphLint.Schema

/-! ## Part by part -/

/-- The findings about a text under each rule. -/
def findingsByRule (text : Text) : List (String × List Diagnostic) :=
  [(kind.rule, kind.findings text), (apiVersion.rule, apiVersion.findings text),
    (metadata.rule, metadata.findings text), (spec.rule, spec.findings text),
    (metadata.childRule, metadata.childFindings text), (spec.childRule, spec.childFindings text)]

/-- What is reported about a text under a rule. -/
def reported (config : Config) (text : Text) (rule : String) : List Diagnostic :=
  (check config text).filter (·.rule == rule)

section
variable {config : Config} {text : Text} {b : Block} {f : FixedField}

/-- Of parts under different rules the findings under a rule are its part. -/
theorem filter_rule_flatMap {parts : List (String × List Diagnostic)}
    (hdistinct : (parts.map (·.1)).Nodup) (hrule : ∀ p ∈ parts, ∀ d ∈ p.2, d.rule = p.1)
    {p : String × List Diagnostic} (hp : p ∈ parts) :
    (parts.flatMap (·.2)).filter (·.rule == p.1) = p.2 := by
  induction parts with
  | nil => cases hp
  | cons q rest ih =>
    obtain ⟨hfresh, hdistinct⟩ := List.nodup_cons.mp hdistinct
    obtain ⟨hq, hrest⟩ := List.forall_mem_cons.mp hrule
    rw [List.flatMap_cons, List.filter_append]
    rcases List.mem_cons.mp hp with rfl | hp
    -- the part stands first, and no later one is under its rule
    · have hown : p.2.filter (·.rule == p.1) = p.2 :=
        List.filter_eq_self.mpr fun d hd => beq_iff_eq.mpr (hq d hd)
      have hothers : (rest.flatMap (·.2)).filter (·.rule == p.1) = [] := by
        rw [List.filter_eq_nil_iff]
        intro d hd hsame
        obtain ⟨r, hr, hd⟩ := List.mem_flatMap.mp hd
        have hkey : r.1 = p.1 := (hrest r hr d hd).symm.trans (beq_iff_eq.mp hsame)
        exact hfresh (List.mem_map.mpr ⟨r, hr, hkey⟩)
      rw [hown, hothers, List.append_nil]
    -- it stands further on, so the first one is under another rule
    · have hother : q.2.filter (·.rule == p.1) = [] := by
        rw [List.filter_eq_nil_iff]
        intro d hd hsame
        have hkey : p.1 = q.1 := (beq_iff_eq.mp hsame).symm.trans (hq d hd)
        exact hfresh (List.mem_map.mpr ⟨p, hp, hkey⟩)
      rw [hother, List.nil_append, ih hdistinct hrest hp]

theorem findings_eq_flatMap (text : Text) :
    findings text = (findingsByRule text).flatMap (·.2) := by
  simp [findings, findingsByRule]

theorem rule_eq_of_mem_findingsByRule {p : String × List Diagnostic}
    (hp : p ∈ findingsByRule text) {d : Diagnostic} (hd : d ∈ p.2) : d.rule = p.1 := by
  simp only [findingsByRule, List.mem_cons, List.not_mem_nil, or_false] at hp
  rcases hp with rfl | rfl | rfl | rfl | rfl | rfl
  · exact (FixedField.isFinding_of_mem_findings hd).rule_eq
  · exact (FixedField.isFinding_of_mem_findings hd).rule_eq
  · exact (Block.isFinding_of_mem_findings hd).rule_eq
  · exact (Block.isFinding_of_mem_findings hd).rule_eq
  · exact (Block.isFinding_of_mem_childFindings hd).rule_eq
  · exact (Block.isFinding_of_mem_childFindings hd).rule_eq

/-- **What is reported under a rule** is what is found under it, if the rule is on. -/
theorem reported_eq {p : String × List Diagnostic} (hp : p ∈ findingsByRule text) :
    reported config text p.1 = if config.enables p.1 then p.2 else [] := by
  have hdistinct : ((findingsByRule text).map (·.1)).Nodup := rules_nodup
  have hpart : (findings text).filter (·.rule == p.1) = p.2 := by
    rw [findings_eq_flatMap]
    exact filter_rule_flatMap hdistinct (fun _ hq _ => rule_eq_of_mem_findingsByRule hq) hp
  have henabled : ∀ d ∈ p.2, config.enables d.rule = config.enables p.1 := fun d hd =>
    congrArg config.enables (rule_eq_of_mem_findingsByRule hp hd)
  rw [reported, check_eq_filter, List.filter_comm, hpart]
  split
  · rename_i hon
    exact List.filter_eq_self.mpr fun d hd => (henabled d hd).trans hon
  · rename_i hoff
    exact List.filter_eq_nil_iff.mpr fun d hd => (henabled d hd).symm ▸ hoff

theorem reported_rule_of_mem_fields (hf : f ∈ fields) (config : Config) (text : Text) :
    reported config text f.rule = if config.enables f.rule then f.findings text else [] := by
  have hpart : (f.rule, f.findings text) ∈ findingsByRule text := by
    simp only [fields, List.mem_cons, List.not_mem_nil, or_false] at hf
    rcases hf with rfl | rfl <;> simp [findingsByRule]
  exact reported_eq hpart

theorem reported_rule_of_mem_blocks (hb : b ∈ blocks) (config : Config) (text : Text) :
    reported config text b.rule = if config.enables b.rule then b.findings text else [] := by
  have hpart : (b.rule, b.findings text) ∈ findingsByRule text := by
    simp only [blocks, List.mem_cons, List.not_mem_nil, or_false] at hb
    rcases hb with rfl | rfl <;> simp [findingsByRule]
  exact reported_eq hpart

theorem reported_childRule_of_mem_blocks (hb : b ∈ blocks) (config : Config) (text : Text) :
    reported config text b.childRule =
      if config.enables b.childRule then b.childFindings text else [] := by
  have hpart : (b.childRule, b.childFindings text) ∈ findingsByRule text := by
    simp only [blocks, List.mem_cons, List.not_mem_nil, or_false] at hb
    rcases hb with rfl | rfl <;> simp [findingsByRule]
  exact reported_eq hpart

/-! ## Blocks -/

/-- What a line of a text holds, the text holds. -/
theorem isInfix_of_mem_lines {part line : Text} (hpart : '\n' ∉ part)
    (hline : line ∈ Text.lines text) (h : part <:+: line) : part <:+: text := by
  rw [← Text.occurs_iff_isInfix, Text.occurs_eq_any_lines hpart, List.any_eq_true]
  exact ⟨line, hline, Text.occurs_iff_isInfix.mpr h⟩

/-- **A block that lacks its field is not missing itself.** -/
theorem Block.findings_eq_nil_or_childFindings_eq_nil (hb : b.IsPlain) (text : Text) :
    b.findings text = [] ∨ b.childFindings text = [] := by
  cases hblock : blockLines? b.name (Text.lines text) with
  | none =>
    refine .inr ?_
    rw [childFindings, hblock]
  | some body =>
    obtain ⟨i, head, h⟩ := blockLines?_eq_some_iff.mp hblock
    obtain ⟨w, hhead, -⟩ := h.header.exists_eq_append
    have hoccurs : header b.name <:+: text :=
      isInfix_of_mem_lines hb.not_mem_name (List.mem_of_getElem? h.head_eq)
        (hhead ▸ (List.prefix_append (header b.name) w).isInfix)
    refine .inl ?_
    rw [findings, if_pos (Text.occurs_iff_isInfix.mpr hoccurs)]

/-- What is found about a block is one finding at most. -/
theorem Block.length_findings_add_le (hb : b.IsPlain) (text : Text) :
    (b.findings text).length + (b.childFindings text).length ≤ 1 := by
  have hown := (b.map_rule_findings_sublist text).length_le
  have hchild := (b.map_rule_childFindings_sublist text).length_le
  rw [List.length_map, List.length_singleton] at hown hchild
  rcases findings_eq_nil_or_childFindings_eq_nil hb text with h | h
  · rw [h, List.length_nil, Nat.zero_add]
    exact hchild
  · rw [h, List.length_nil, Nat.add_zero]
    exact hown

/-! ## Fields of fixed value -/

/-- The finding about a field that is not there. -/
def FixedField.missing (f : FixedField) : Diagnostic :=
  finding (.lineStart 0) f.rule ("Missing required field '" ++ f.name ++ "'")
    ("Add '" ++ (f.name ++ ": " ++ f.value ++ "'"))

/-- The finding about a field that has another value, or whose line has another form. -/
def FixedField.mismatch (f : FixedField) : Diagnostic :=
  finding (.lineStart 0) f.rule ("'" ++ f.name ++ "' must be '" ++ f.value ++ "'")
    ("Set '" ++ (f.name ++ ": " ++ f.value ++ "'"))

theorem missing_ne_mismatch (hf : f ∈ fields) : f.missing ≠ f.mismatch := by
  simp only [fields, List.mem_cons, List.not_mem_nil, or_false] at hf
  rcases hf with rfl | rfl <;> decide

/-- **The name of a field occurs where its value is given.** -/
theorem isInfix_of_isGivenBy (hf : f.IsPlain) (h : ∃ line ∈ Text.lines text, f.IsGivenBy line) :
    header f.name <:+: text := by
  obtain ⟨line, hline, h⟩ := h
  exact isInfix_of_mem_lines hf.not_mem_header hline h.isInfix

/-- **What is found about a field**: nothing where a line gives its value, one thing where its name
occurs otherwise, and another where it does not occur. -/
theorem FixedField.findings_cases (hf : f.IsPlain) (text : Text) :
    (header f.name <:+: text ∧ (∃ line ∈ Text.lines text, f.IsGivenBy line) ∧
      f.findings text = []) ∨
    (header f.name <:+: text ∧ (¬ ∃ line ∈ Text.lines text, f.IsGivenBy line) ∧
      f.findings text = [f.mismatch]) ∨
    (¬ header f.name <:+: text ∧ (¬ ∃ line ∈ Text.lines text, f.IsGivenBy line) ∧
      f.findings text = [f.missing]) := by
  by_cases hoccurs : header f.name <:+: text
  · have hfound := Text.occurs_iff_isInfix.mpr hoccurs
    by_cases hgiven : ∃ line ∈ Text.lines text, f.IsGivenBy line
    · refine .inl ⟨hoccurs, hgiven, ?_⟩
      rw [findings, hfound, (any_isGivenOn_iff hf).mpr hgiven]
      rfl
    · have hany := Bool.eq_false_iff.mpr (mt (any_isGivenOn_iff hf).mp hgiven)
      refine .inr (.inl ⟨hoccurs, hgiven, ?_⟩)
      rw [findings, hfound, hany]
      rfl
  · have hfound := Bool.eq_false_iff.mpr (mt Text.occurs_iff_isInfix.mp hoccurs)
    refine .inr (.inr ⟨hoccurs, mt (isInfix_of_isGivenBy hf) hoccurs, ?_⟩)
    rw [findings, hfound]
    rfl

/-- How the rule about a field of fixed value is carried out. -/
structure FixedField.IsJudgedByLines (f : FixedField) (config : Config) (text : Text) : Prop where
  /-- Nothing is reported exactly if a line gives the field its value, or the rule is off. -/
  absent_iff : reported config text f.rule = [] ↔
    config.enables f.rule = false ∨ ∃ line ∈ Text.lines text, f.IsGivenBy line
  /-- The field is reported as missing exactly if its name occurs nowhere. -/
  missing_iff : reported config text f.rule = [f.missing] ↔
    config.enables f.rule = true ∧ ¬ header f.name <:+: text
  /-- Another value is reported exactly if the name occurs and no line gives the right one. -/
  mismatch_iff : reported config text f.rule = [f.mismatch] ↔
    config.enables f.rule = true ∧ header f.name <:+: text ∧
      ¬ ∃ line ∈ Text.lines text, f.IsGivenBy line
  /-- The pattern of the field matches exactly if a line gives the value. -/
  matches_iff : f.pattern.MatchesLine text ↔ ∃ line ∈ Text.lines text, f.IsGivenBy line

theorem isJudgedByLines_of_mem_fields (hf : f ∈ fields) (config : Config) (text : Text) :
    f.IsJudgedByLines config text := by
  have hplain := isPlain_of_mem_fields hf
  have hreported := reported_rule_of_mem_fields hf config text
  have hpattern := matchesLine_pattern_iff hplain text
  have hne := missing_ne_mismatch hf
  cases hon : config.enables f.rule with
  | false =>
    rw [hon, if_neg Bool.false_ne_true] at hreported
    constructor <;> simp [hreported, hpattern, hon]
  | true =>
    rw [hon, if_pos rfl] at hreported
    rcases FixedField.findings_cases hplain text with
      ⟨hoccurs, hgiven, h⟩ | ⟨hoccurs, hgiven, h⟩ | ⟨hoccurs, hgiven, h⟩
    all_goals
      rw [h] at hreported
      constructor <;> simp [hreported, hpattern, hon, hoccurs, hgiven, hne, hne.symm]

/-- **The rules about fixed values are judged line by line.**  Such a rule is passed, if it is on,
exactly if some line is the name of the field and a colon, one of the spellings of its value, and
nothing but a comment or a carriage return behind it.  Otherwise the field is reported, as missing if
its name and a colon occur nowhere in the text and as having another value if they do. -/
theorem fixedFields_judgedByLines (config : Config) (text : Text) :
    kind.IsJudgedByLines config text ∧ apiVersion.IsJudgedByLines config text :=
  ⟨isJudgedByLines_of_mem_fields (by simp [fields]) config text,
    isJudgedByLines_of_mem_fields (by simp [fields]) config text⟩

/-! ## All rules together -/

/-- What is reported about a text is of one piece. -/
structure IsConsistent (config : Config) (text : Text) : Prop where
  /-- The rules come in one order. -/
  ordered : ((check config text).map (·.rule)).Sublist ["schema::kind", "schema::api-version",
    "schema::metadata", "schema::spec", "schema::metadata-name", "schema::spec-resources"]
  /-- No rule is reported twice. -/
  distinct : ((check config text).map (·.rule)).Nodup
  /-- A block is not reported as missing together with its field. -/
  exclusive : ∀ b ∈ blocks, reported config text b.rule = [] ∨ reported config text b.childRule = []
  length_le : (check config text).length ≤ 4
  /-- Where the pattern of a field matches, its name occurs and nothing is reported about it; least
  of all that it is missing. -/
  given : ∀ f ∈ fields, f.pattern.MatchesLine text →
    header f.name <:+: text ∧ reported config text f.rule = [] ∧ f.missing ∉ check config text

theorem length_findings_le (text : Text) : (findings text).length ≤ 4 := by
  have hkind := (kind.map_rule_findings_sublist text).length_le
  have hversion := (apiVersion.map_rule_findings_sublist text).length_le
  have hblock : ∀ b ∈ blocks, (b.findings text).length + (b.childFindings text).length ≤ 1 :=
    fun b hb => Block.length_findings_add_le (isPlain_of_mem_blocks hb) text
  have hmetadata := hblock metadata (by simp [blocks])
  have hspec := hblock spec (by simp [blocks])
  rw [List.length_map, List.length_singleton] at hkind hversion
  simp only [findings, List.length_append]
  omega

/-- **The findings about the fields are consistent**, whatever the text and the configuration. -/
theorem findings_consistent (config : Config) (text : Text) : IsConsistent config text := by
  have hcheck : (check config text).Sublist (findings text) := by
    rw [check_eq_filter]
    exact List.filter_sublist
  have hrules := (hcheck.map (·.rule)).trans (map_rule_findings_sublist text)
  constructor
  case ordered => exact hrules
  case distinct => exact rules_nodup.sublist hrules
  case length_le => exact hcheck.length_le.trans (length_findings_le text)
  case exclusive =>
    intro b hb
    rw [reported_rule_of_mem_blocks hb, reported_childRule_of_mem_blocks hb]
    rcases Block.findings_eq_nil_or_childFindings_eq_nil (isPlain_of_mem_blocks hb) text with h | h
    · exact .inl (by rw [h, ite_self])
    · exact .inr (by rw [h, ite_self])
  case given =>
    intro f hf hmatch
    have hjudged := isJudgedByLines_of_mem_fields hf config text
    have hgiven := hjudged.matches_iff.mp hmatch
    have habsent := hjudged.absent_iff.mpr (.inr hgiven)
    refine ⟨isInfix_of_isGivenBy (isPlain_of_mem_fields hf) hgiven, habsent, fun hmem => ?_⟩
    exact absurd (List.filter_eq_nil_iff.mp habsent _ hmem) (by simp [FixedField.missing, finding])

end
end GraphLint.Schema
