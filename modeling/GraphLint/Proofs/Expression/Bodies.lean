import GraphLint.Proofs.Expression.Margins
import GraphLint.Proofs.Validation.Pipeline
/-! # The bodies of located expressions

A span is a marker pair of one line, so its body is what stands between the markers, trimmed, and it
has no `}` and no line feed.  Nothing in such a body closes a `{`.  One that is pushed on the stack
stays there, whatever other brackets are opened and closed above and below it
(`count_openBrackets`), so as soon as a `{` stands outside literals, either the check gives up before
the end, or something is open there.  Both are problems with brackets and quotes, and none of them is
about a `}`.  As the wording tells the problem (`Problem.message_injective`), no finding about an
expression is worded like one about a `}`. -/
namespace GraphLint.Expression
variable {body stack left t : Text} {o c : Char} {problem : Problem}

/-! ## A bracket that is not closed -/

/-- No two kinds of brackets have a bracket in common. -/
theorem closer_unique {d : Char} (hc : (o, c) ∈ brackets) (hd : (o, d) ∈ brackets) : d = c := by
  have hall : ∀ a ∈ brackets, ∀ b ∈ brackets, a.1 = b.1 → b.2 = a.2 := by decide
  exact hall _ hc _ hd rfl

/-- **A bracket that nothing closes stays on the stack.** -/
theorem count_openBrackets (hoc : (o, c) ∈ brackets) (hc : c ∉ t)
    (h : openBrackets stack t = .ok left) : left.count o = stack.count o + t.count o := by
  induction t generalizing stack with
  | nil =>
    obtain rfl := Except.ok.inj h
    rfl
  | cons d t ih =>
    obtain ⟨hdc, ht⟩ := not_or.mp (mt List.mem_cons.mpr hc)
    have ho := opens_of_mem hoc
    rcases openBrackets_cases stack d with hno | ⟨e, hopen⟩ | ⟨p, below, hclose, rfl⟩ | ⟨q, hq⟩
    · rw [openBrackets_ignore hno] at h
      have hne : d ≠ o := by
        rintro rfl
        rw [(isBracket_of_mem hoc).1] at hno
        cases hno
      rw [ih ht h, List.count_cons_of_ne hne]
    · rw [openBrackets_open hopen] at h
      rw [ih ht h, List.count_cons, List.count_cons]
      omega
    · -- what is closed here is another bracket, since `c` is the only one that closes `o`
      rw [openBrackets_close hclose] at h
      have hpo : p ≠ o := by
        rintro rfl
        exact hdc (closer_unique hclose hoc)
      have hdo : d ≠ o := by
        rintro rfl
        rw [(closes_of_mem hclose).1] at ho
        cases ho
      rw [ih ht h, List.count_cons_of_ne hpo, List.count_cons_of_ne hdo]
    · rw [openBrackets_refuse hq] at h
      cases h

theorem not_mem_unquoted (h : c ∉ body) : c ∉ unquoted body :=
  fun hmem => h ((unquotedFrom_sublist none body).subset hmem)

/-- A body that opens a bracket and never closes it is in disorder. -/
theorem checkDelimiters_ne_ok (hoc : (o, c) ∈ brackets) (hc : c ∉ body)
    (ho : o ∈ unquoted body) : checkDelimiters body ≠ .ok () := by
  intro h
  obtain ⟨-, hbalanced⟩ := checkDelimiters_eq_ok_iff.mp h
  have hrun := hbalanced.openBrackets_eq []
  rw [openBrackets_filter] at hrun
  have hcount := count_openBrackets hoc (not_mem_unquoted hc) hrun
  rw [List.count_nil, Nat.zero_add] at hcount
  exact List.count_eq_zero.mp hcount.symm ho

/-- Its problem is one with brackets and quotes. -/
theorem exists_check_eq_error (hoc : (o, c) ∈ brackets) (hc : c ∉ body)
    (ho : o ∈ unquoted body) :
    ∃ problem, check body = .error problem ∧ problem.rule = "cel::delimiters" := by
  have hvisible := isBlank_of_isBracket (isBracket_of_mem hoc).1
  have hblank : ¬ body.AllBlank :=
    fun h => h.not_mem hvisible ((unquotedFrom_sublist none body).subset ho)
  cases hd : checkDelimiters body with
  | ok _ => exact absurd hd (checkDelimiters_ne_ok hoc hc ho)
  | error problem =>
    exact ⟨problem, check_of_checkDelimiters_error hblank hd, rule_of_checkDelimiters hd⟩

/-! ## What is found in a body -/

/-- A problem with brackets and quotes is found by their check. -/
theorem checkDelimiters_of_check (h : check body = .error problem)
    (hrule : problem.rule = "cel::delimiters") : checkDelimiters body = .error problem := by
  rcases check_cases h with rfl | hd | ho | ht
  · exact absurd hrule (by decide)
  · exact hd
  · exact absurd ((rule_of_checkOperators ho).symm.trans hrule) (by decide)
  · exact absurd ((rule_of_checkTernary ht).symm.trans hrule) (by decide)

/-- No problem is about a closing bracket that the body does not have. -/
theorem ne_of_check_eq_error (hoc : (o, c) ∈ brackets) (hc : c ∉ body)
    (h : check body = .error problem) :
    problem ≠ .unexpectedClosing c ∧ ∀ found, problem ≠ .mismatched o found := by
  have hrefused : problem.rule = "cel::delimiters" → (∀ kind, problem ≠ .unclosedQuote kind) →
      (∀ left, problem ≠ .unclosedDelimiters left) →
      ∃ d ∈ unquoted body, ∃ stack, Refuses stack d problem := by
    intro hrule hquote hleft
    rcases checkDelimiters_cases (checkDelimiters_of_check h hrule) with
      hd | ⟨kind, -, hkind⟩ | ⟨stack, -, -, -, hstack⟩
    · exact hd
    · exact absurd hkind (hquote kind)
    · exact absurd hstack (hleft _)
  constructor
  · rintro rfl
    obtain ⟨d, hd, stack, hrefuses⟩ := hrefused rfl nofun nofun
    cases hrefuses
    exact not_mem_unquoted hc hd
  · rintro found rfl
    obtain ⟨d, hd, stack, hrefuses⟩ := hrefused rfl nofun nofun
    cases hrefuses with
    | mismatched hmem _ => exact not_mem_unquoted hc (closer_unique hoc hmem ▸ hd)

/-- The brackets that are told to be left open are all of those that nothing closes. -/
theorem count_of_unclosedDelimiters (hoc : (o, c) ∈ brackets) (hc : c ∉ body)
    (h : check body = .error (.unclosedDelimiters left)) :
    left.count o = (unquoted body).count o := by
  rcases checkDelimiters_cases (checkDelimiters_of_check h rfl) with
    ⟨_, _, _, hrefuses⟩ | ⟨_, _, hquote⟩ | ⟨stack, hrun, _, _, hleft⟩
  · cases hrefuses
  · cases hquote
  · obtain rfl := Problem.unclosedDelimiters.inj hleft
    have hcount := count_openBrackets hoc (not_mem_unquoted hc) hrun
    rwa [List.count_nil, Nat.zero_add, ← List.count_reverse] at hcount

/-- **The wording tells the problem.** -/
theorem Problem.message_injective : Function.Injective Problem.message := by
  intro p q h
  have hchars := congrArg String.toList h
  cases p <;> cases q <;> unfold Problem.message at hchars <;>
    simp [String.toList_append] at hchars ⊢
  case unexpectedClosing.unexpectedClosing => exact hchars
  case mismatched.mismatched => exact hchars
  case unclosedDelimiters.unclosedDelimiters => exact hchars
  case invalidOperator.invalidOperator => exact hchars
  case unclosedQuote.unclosedQuote kind other =>
    cases kind <;> cases other <;> simp [QuoteKind.word] at hchars ⊢
  case unclosedQuote.unclosedDelimiters kind left =>
    cases kind <;> simp [QuoteKind.word] at hchars
  case unclosedDelimiters.unclosedQuote left kind =>
    cases kind <;> simp [QuoteKind.word] at hchars

/-! ## The bodies of a text -/

/-- A span is a marker pair of a line. -/
theorem inner_of_mem_spans {text : Text} {span : Span} (h : span ∈ spans text) :
    '}' ∉ span.inner ∧ '\n' ∉ span.inner ∧ ∃ line ∈ Text.lines text, span.text <:+: line := by
  obtain ⟨i, p, hmem, rfl⟩ := exists_mem_linePairs h
  obtain ⟨line, hline, hp⟩ := mem_linePairs.mp hmem
  obtain ⟨hbrace, hpre⟩ := occursIn_of_mem_pairs hp
  have hline := List.mem_of_getElem? hline
  have hpart : p.text <:+: line := hpre.isInfix.trans (List.drop_suffix _ _).isInfix
  have hnewline : '\n' ∉ p.text := fun hn => Text.not_mem_of_mem_lines hline (hpart.subset hn)
  exact ⟨hbrace, newline_not_mem_text.mp hnewline, line, hline, hpart⟩

/-- What is said of the bodies of the expressions of a text. -/
structure BodiesOf (text : Text) : Prop where
  /-- A span is what a line holds from one marker to another one; its body is what is between
  them, trimmed. -/
  between : ∀ span ∈ spans text, ∃ inner, span.text = openMarker ++ inner ++ closeMarker ∧
    (∃ line ∈ Text.lines text, span.text <:+: line) ∧ span.body = Text.trim inner
  plain : ∀ span ∈ spans text, '}' ∉ span.body ∧ '\n' ∉ span.body
  /-- A `{` outside literals makes the check of brackets and quotes fail, and it comes first. -/
  braced : ∀ span ∈ spans text, '{' ∈ unquoted span.body →
    ∃ problem, check span.body = .error problem ∧ problem.rule = "cel::delimiters"
  /-- Of the brackets that are told to be left open, as many are a `{` as the body has. -/
  listed : ∀ span ∈ spans text, ∀ left, check span.body = .error (.unclosedDelimiters left) →
    left.count '{' = (unquoted span.body).count '{'
  /-- No finding is about a `}`. -/
  reported : ∀ config, ∀ d ∈ Validation.checkExpressions config text,
    ∃ span ∈ spans text, ∃ problem, check span.body = .error problem ∧
      d = .ofError span.range .cel problem.rule ("CEL Expression Error: " ++ problem.message) ∧
      problem ≠ .unexpectedClosing '}' ∧ ∀ found, problem ≠ .mismatched '{' found
  /-- None is worded like one. -/
  worded : ∀ config, ∀ d ∈ Validation.checkExpressions config text,
    d.message ≠ "CEL Expression Error: " ++ (Problem.unexpectedClosing '}').message ∧
      ∀ found, d.message ≠ "CEL Expression Error: " ++ (Problem.mismatched '{' found).message

/-- **In the body of a located expression a `{` is never closed**, in any text: it makes the body
fail for its brackets or quotes, and no `}` is ever reported. -/
theorem spans_bodies (text : Text) : BodiesOf text := by
  have hcurly : ('{', '}') ∈ brackets := by decide
  have hbrace : ∀ span ∈ spans text, '}' ∉ span.body := by
    intro span h hmem
    rw [span.body_eq_trim] at hmem
    exact (inner_of_mem_spans h).1 (Text.mem_of_mem_trim hmem)
  have hfound : ∀ config, ∀ d ∈ Validation.checkExpressions config text,
      ∃ span ∈ spans text, Validation.Describes span d := by
    intro config d hd
    obtain ⟨span, hspan, hdesc⟩ := Validation.exists_describes_of_mem
      (Validation.describes_checkExpressions config text) hd
    exact ⟨span, List.mem_of_mem_filter hspan, hdesc⟩
  constructor
  case between =>
    intro span h
    exact ⟨span.inner, rfl, (inner_of_mem_spans h).2.2, span.body_eq_trim⟩
  case plain =>
    intro span h
    refine ⟨hbrace span h, fun hmem => ?_⟩
    rw [span.body_eq_trim] at hmem
    exact (inner_of_mem_spans h).2.1 (Text.mem_of_mem_trim hmem)
  case braced => exact fun span h => exists_check_eq_error hcurly (hbrace span h)
  case listed => exact fun span h left => count_of_unclosedDelimiters hcurly (hbrace span h)
  case reported =>
    intro config d hd
    obtain ⟨span, hspan, problem, hproblem, rfl⟩ := hfound config d hd
    exact ⟨span, hspan, problem, hproblem, rfl,
      ne_of_check_eq_error hcurly (hbrace span hspan) hproblem⟩
  case worded =>
    intro config d hd
    obtain ⟨span, hspan, problem, hproblem, rfl⟩ := hfound config d hd
    obtain ⟨hclosing, hmismatched⟩ := ne_of_check_eq_error hcurly (hbrace span hspan) hproblem
    have hworded : ∀ other : Problem, problem ≠ other →
        "CEL Expression Error: " ++ problem.message ≠ "CEL Expression Error: " ++ other.message := by
      intro other hne heq
      exact hne (Problem.message_injective (String.append_right_inj _ |>.mp heq))
    exact ⟨hworded _ hclosing, fun found => hworded _ (hmismatched found)⟩

end GraphLint.Expression
