import GraphLint.Expression.Marker
import GraphLint.Proofs.Expression.Checks
/-! # White space around an expression

White space is no quote, no bracket, no `?` and no `:`, and no malformed operator has any.  So before
a body it is yielded by the scan and then passed over by every check; behind a body it is yielded too,
or swallowed by a literal that the body leaves open, and makes no difference either way
(`filter_unquoted_margins`).  The end of a body is looked at after trimming.  Hence the checks tell a
body and its trimmed form not apart (`check_trim`), and neither do they see more white space around
it. -/
namespace GraphLint.Expression
open Text (AllBlank)
variable {l r part : Text}

theorem mark_not_mem_of_allBlank {t : Text} (h : t.AllBlank) (kind : QuoteKind) : kind.mark ∉ t :=
  h.not_mem (by cases kind <;> decide)

/-- What is picked from the characters outside literals is the same, if no white space is. -/
theorem filter_unquoted_margins {p : Char → Bool} (hp : ∀ c, Text.isBlank c = true → p c = false)
    (hl : l.AllBlank) (hr : r.AllBlank) (body : Text) :
    (unquoted (l ++ body ++ r)).filter p = (unquoted body).filter p := by
  have hnone : ∀ t : Text, t.AllBlank → t.filter p = [] := by
    intro t ht
    rw [List.filter_eq_nil_iff]
    intro c hc
    rw [hp c (ht c hc)]
    exact Bool.false_ne_true
  obtain ⟨hyield, hopen⟩ := scan_of_forall_mark_not_mem (mark_not_mem_of_allBlank hl)
  -- behind the body the scan goes on with the literal that the body leaves open
  have hright : unquoted (body ++ r) = unquoted body ++ unquotedFrom (openQuote body) r :=
    unquotedFrom_append none body r
  have hblank : AllBlank (unquotedFrom (openQuote body) r) :=
    fun c hc => hr c ((unquotedFrom_sublist _ r).subset hc)
  rw [List.append_assoc, unquoted_append (hopen none), hyield, hright, List.filter_append,
    List.filter_append, hnone l hl, hnone _ hblank, List.nil_append, List.append_nil]

theorem count_unquoted_margins {c : Char} (hc : Text.isBlank c = false) (hl : l.AllBlank)
    (hr : r.AllBlank) (body : Text) :
    (unquoted (l ++ body ++ r)).count c = (unquoted body).count c := by
  have hp : ∀ d, Text.isBlank d = true → (d == c) = false :=
    fun d hd => beq_eq_false_iff_ne.mpr (Text.ne_of_isBlank hd hc)
  rw [List.count_eq_length_filter, List.count_eq_length_filter, filter_unquoted_margins hp hl hr]

/-- A part without white space is found where it is found without the white space around a text. -/
theorem isInfix_margins (hne : part ≠ []) (hpart : ∀ c ∈ part, Text.isBlank c = false)
    (hl : l.AllBlank) (hr : r.AllBlank) (body : Text) :
    part <:+: l ++ body ++ r ↔ part <:+: body := by
  have hnot : ∀ t : Text, t.AllBlank → ¬ part <:+: t := by
    intro t ht h
    obtain ⟨c, hc⟩ := List.exists_mem_of_ne_nil part hne
    exact ht.not_mem (hpart c hc) (h.subset hc)
  have hmem : ∀ {c : Char}, Text.isBlank c = true → c ∉ part :=
    fun hc h => Text.ne_of_isBlank hc (hpart _ h) rfl
  have hright : part <:+: l ++ body ++ r ↔ part <:+: l ++ body := by
    cases r with
    | nil => rw [List.append_nil]
    | cons c r =>
      obtain ⟨hc, hr⟩ := List.forall_mem_cons.mp hr
      rw [Text.isInfix_append_cons_iff (hmem hc), or_iff_left (hnot r hr)]
  rw [hright]
  rcases List.eq_nil_or_concat l with rfl | ⟨l, c, rfl⟩
  · rfl
  · obtain ⟨hl, hc⟩ := List.forall_mem_append.mp (List.concat_eq_append ▸ hl)
    rw [List.concat_eq_append, List.append_assoc, List.singleton_append,
      Text.isInfix_append_cons_iff (hmem (hc c (List.mem_singleton_self c))),
      or_iff_right (hnot l hl)]

/-! ## Check by check -/

section
variable (hl : l.AllBlank) (hr : r.AllBlank) (body : Text)
include hl hr

theorem checkDelimiters_margins : checkDelimiters (l ++ body ++ r) = checkDelimiters body := by
  have hbracket : ∀ c, Text.isBlank c = true → isBracket c = false := by
    intro c hc
    rw [← Bool.not_eq_true]
    intro h
    rw [isBlank_of_isBracket h] at hc
    cases hc
  have hopen : openQuote (l ++ body ++ r) = openQuote body := by
    rw [openQuote, openAfter_append, openAfter_append,
      (scan_of_forall_mark_not_mem (mark_not_mem_of_allBlank hl)).2,
      (scan_of_forall_mark_not_mem (mark_not_mem_of_allBlank hr)).2, openQuote]
  rw [checkDelimiters_eq, checkDelimiters_eq, hopen, filter_unquoted_margins hbracket hl hr]

theorem endsWithOperator_margins :
    endsWithOperator (l ++ body ++ r) = endsWithOperator body := by
  have hright : endsWithOperator (l ++ body ++ r) = endsWithOperator (l ++ body) := by
    rw [endsWithOperator, endsWithOperator, Text.trimEnd_append hr]
  rw [hright]
  by_cases hbody : body.AllBlank
  · rw [endsWithOperator_of_allBlank hbody, endsWithOperator_of_allBlank (hl.append hbody)]
  · -- in front of a body that is nothing but an `=` stands white space now, and no operator
    refine endsWithOperator_append ?_ hbody
    cases hlast : l.getLast? with
    | none => rfl
    | some c =>
      have hc := hl c (List.mem_of_getLast? hlast)
      rw [Option.any_some, ← Bool.not_eq_true]
      intro h
      simp only [isTrailingOperator, Bool.or_eq_true, beq_iff_eq] at h
      rcases h with ((((((((rfl | rfl) | rfl) | rfl) | rfl) | rfl) | rfl) | rfl) | rfl) | rfl <;>
        exact absurd hc (by decide)

theorem checkOperators_margins : checkOperators (l ++ body ++ r) = checkOperators body := by
  have hall : ∀ operator ∈ invalidOperators,
      operator ≠ [] ∧ (operator.all fun c => !Text.isBlank c) = true := by decide
  refine checkOperators_congr (fun operator hop => ?_) (endsWithOperator_margins hl hr body)
  obtain ⟨hne, hvisible⟩ := hall operator hop
  have hpart : ∀ c ∈ operator, Text.isBlank c = false := by
    intro c hc
    simpa using List.all_eq_true.mp hvisible c hc
  exact isInfix_margins hne hpart hl hr body

theorem checkTernary_margins : checkTernary (l ++ body ++ r) = checkTernary body :=
  checkTernary_congr (count_unquoted_margins (by decide) hl hr body)
    (count_unquoted_margins (by decide) hl hr body)

end

/-! ## The answer -/

/-- The checks look at a body as if it were trimmed. -/
theorem check_trim (body : Text) : check (Text.trim body) = check body := by
  obtain ⟨l, r, hl, hr, heq⟩ := Text.exists_eq_append_trim body
  by_cases hblank : body.AllBlank
  · rw [Text.trim_eq_nil_iff.mpr hblank, check_of_allBlank hblank]
    rfl
  · have htrim : ¬ (Text.trim body).AllBlank := by
      intro h
      exact hblank (heq ▸ (hl.append h).append hr)
    have hdelimiters := checkDelimiters_margins hl hr (Text.trim body)
    have hoperators := checkOperators_margins hl hr (Text.trim body)
    have hternary := checkTernary_margins hl hr (Text.trim body)
    rw [← heq] at hdelimiters hoperators hternary
    rw [check_of_not_allBlank htrim, check_of_not_allBlank hblank, hdelimiters, hoperators, hternary]

/-- What stands between the markers of a span is its body up to white space. -/
theorem Span.body_eq_trim (span : Span) : span.body = Text.trim span.inner := by
  have hopen : Text.after? openMarker span.text = some (span.inner ++ closeMarker) := by
    rw [Text.after?_eq_some_iff, Span.text, List.append_assoc]
  have hclose : Text.before? closeMarker (span.inner ++ closeMarker) = some span.inner :=
    Text.before?_eq_some_iff.mpr rfl
  rw [Span.body, bodyOf, hopen, Option.getD_some, hclose, Option.getD_some]

/-- **White space around an expression does not change the answer**, also where it falls into a
literal that is left open or behind an operator, and an answer about the body of a span is the one
about all that stands between its markers. -/
theorem check_margins (hl : l.AllBlank) (hr : r.AllBlank) (body : Text) :
    check (l ++ body ++ r) = check body ∧
      ∀ text, ∀ span ∈ spans text, ∃ inner, span.text = openMarker ++ inner ++ closeMarker ∧
        check span.body = check inner := by
  constructor
  · rw [← check_trim (l ++ body ++ r), Text.trim_append hl hr, check_trim]
  · intro text span _
    exact ⟨span.inner, rfl, by rw [span.body_eq_trim, check_trim]⟩

/-- White space behind an operator in a literal that is left open, and around an operator with an `=`
between the markers of a span. -/
theorem check_margins_openLiteral :
    Text.AllBlank ['\u3000', '\t'] ∧ Text.AllBlank [' ', '\n'] ∧
      check (['\u3000', '\t'] ++ "a ? 'b <".toList ++ [' ', '\n']) =
        .error (.unclosedQuote .single) ∧
      ∀ span ∈ spans "a: \x7b\x7b\t<=\u3000\x7d\x7d".toList,
        ∃ inner, span.text = openMarker ++ inner ++ closeMarker ∧ check span.body = check inner := by
  have hl : Text.AllBlank ['\u3000', '\t'] := List.all_eq_true.mp (by decide)
  have hr : Text.AllBlank [' ', '\n'] := List.all_eq_true.mp (by decide)
  obtain ⟨hcheck, hspans⟩ := check_margins hl hr "a ? 'b <".toList
  exact ⟨hl, hr, hcheck.trans (by decide), hspans _⟩

end GraphLint.Expression
