import GraphLint.Proofs.Expression.Brackets
import GraphLint.Proofs.Text.Search
import GraphLint.Proofs.Text.Trim
import Mathlib.Data.List.Find
/-! # What the checks of an expression ask

For each of the three checks: when it passes, what it fails with, and what of the body it looks at.
The check of brackets and quotes looks at the brackets outside literals and at the literal left open,
the check of operators at the parts of the body and at its end, and the ternary check at two counts.
A body is accepted if it passes all of them and is not blank (`check_eq_ok_iff`), and the rule of a
problem tells which check has found it. -/
namespace GraphLint.Expression
variable {s t r body : Text} {c : Char} {problem : Problem}

/-! ## Brackets and quotes -/

theorem isBlank_of_isBracket (h : isBracket c = true) : Text.isBlank c = false := by
  simp only [isBracket, brackets, List.any_cons, List.any_nil, Bool.or_false, Bool.or_eq_true,
    beq_iff_eq] at h
  rcases h with (rfl | rfl) | (rfl | rfl) | (rfl | rfl) <;> decide

theorem conclude_eq_ok_iff {tail : Option QuoteKind} {run : Except Problem Text} :
    conclude tail run = .ok () ↔ tail = none ∧ run = .ok [] := by
  cases run with
  | error problem => simp [conclude]
  | ok stack => cases tail <;> cases stack <;> simp [conclude]

/-- **Brackets and quotes are in order** if the brackets outside literals are balanced and no literal
is left open. -/
theorem checkDelimiters_eq_ok_iff : checkDelimiters body = .ok () ↔
    openQuote body = none ∧ Balanced ((unquoted body).filter isBracket) := by
  have hbrackets : ∀ c ∈ (unquoted body).filter isBracket, isBracket c = true :=
    fun c hc => (List.mem_filter.mp hc).2
  rw [checkDelimiters_eq, conclude_eq_ok_iff, openBrackets_eq_ok_iff hbrackets, List.reverse_nil,
    leaves_nil_iff]

/-- What is wrong with brackets and quotes: a bracket that the stack refuses, or a literal or
brackets that are left open. -/
theorem checkDelimiters_cases (h : checkDelimiters body = .error problem) :
    (∃ c ∈ unquoted body, ∃ stack, Refuses stack c problem) ∨
      (∃ kind, openQuote body = some kind ∧ problem = .unclosedQuote kind) ∨
        ∃ stack, openBrackets [] (unquoted body) = .ok stack ∧ stack ≠ [] ∧
          openQuote body = none ∧ problem = .unclosedDelimiters stack.reverse := by
  unfold checkDelimiters at h
  cases hrun : openBrackets [] (unquoted body) with
  | error refused =>
    rw [hrun] at h
    obtain rfl : refused = problem := Except.error.inj h
    obtain ⟨w, c, rest, left, hbody, -, hc⟩ := openBrackets_eq_error_iff.mp hrun
    exact .inl ⟨c, by simp [hbody], left, hc⟩
  | ok stack =>
    rw [hrun] at h
    cases hquote : openQuote body with
    | some kind =>
      rw [hquote] at h
      exact .inr (.inl ⟨kind, rfl, (Except.error.inj h).symm⟩)
    | none =>
      rw [hquote] at h
      cases stack with
      | nil => cases h
      | cons top below =>
        exact .inr (.inr ⟨_, rfl, List.cons_ne_nil top below, rfl, (Except.error.inj h).symm⟩)

/-! ## Operators -/

/-- A text holds none of the sequences that no expression may contain. -/
def OperatorFree (t : Text) : Prop := ∀ operator ∈ invalidOperators, ¬ operator <:+: t

/-- Whether a character is part of no malformed operator. -/
def isInert (c : Char) : Bool := invalidOperators.all fun operator => !operator.contains c

theorem not_mem_of_isInert {operator : Text} (h : isInert c = true)
    (hop : operator ∈ invalidOperators) : c ∉ operator := by
  have := List.all_eq_true.mp h operator hop
  simpa using this

theorem operatorFree_nil : OperatorFree [] := by
  unfold OperatorFree
  decide

/-- No malformed operator arises across an inert character. -/
theorem operatorFree_append_cons (hc : isInert c = true) :
    OperatorFree (s ++ c :: t) ↔ OperatorFree s ∧ OperatorFree t := by
  unfold OperatorFree
  rw [← forall₂_and]
  refine forall₂_congr fun operator hop => ?_
  rw [Text.isInfix_append_cons_iff (not_mem_of_isInert hc hop), not_or]

theorem checkOperators_eq_ok_iff : checkOperators body = .ok () ↔
    OperatorFree body ∧ endsWithOperator body = false := by
  have hfind : invalidOperators.find? (Text.occurs · body) = none ↔ OperatorFree body := by
    rw [List.find?_eq_none]
    exact forall₂_congr fun operator _ => not_congr Text.occurs_iff_isInfix
  unfold checkOperators
  rw [← hfind]
  cases invalidOperators.find? (Text.occurs · body) with
  | some operator => simp
  | none => cases endsWithOperator body <;> simp

/-- The check of operators looks at which malformed operators a body holds and at its end. -/
theorem checkOperators_congr (h : ∀ operator ∈ invalidOperators, operator <:+: s ↔ operator <:+: t)
    (hend : endsWithOperator s = endsWithOperator t) : checkOperators s = checkOperators t := by
  have hfind : invalidOperators.find? (Text.occurs · s) =
      invalidOperators.find? (Text.occurs · t) := by
    refine List.find?_congr fun operator hop => ?_
    rw [Bool.eq_iff_iff, Text.occurs_iff_isInfix, Text.occurs_iff_isInfix]
    exact h operator hop
  unfold checkOperators
  rw [hfind, hend]

/-! ## The end of a body -/

theorem endsWithOperator_of_allBlank (h : Text.AllBlank t) : endsWithOperator t = false := by
  have htrim : Text.trimEnd t = [] := Text.trimEnd_append h []
  rw [endsWithOperator, htrim]
  rfl

/-- **The last character that is no white space decides**, and before a final `=` the one before
that, if there is no white space between them. -/
theorem endsWithOperator_append_cons (hc : Text.isBlank c = false) (hr : Text.AllBlank r)
    (s : Text) : endsWithOperator (s ++ c :: r) =
      if c = '=' then s.getLast?.any isTrailingOperator else isTrailingOperator c := by
  rw [endsWithOperator, Text.trimEnd_append_cons hc hr]
  by_cases heq : c = '='
  · subst heq
    rw [if_pos rfl, Text.before?_eq_some_iff.mpr rfl]
    rfl
  · have hnone : Text.before? ['='] (s ++ [c]) = none := by
      rw [Option.eq_none_iff_forall_ne_some]
      intro rest hrest
      have hlast := List.append_inj_right' (Text.before?_eq_some_iff.mp hrest) rfl
      exact heq (List.singleton_inj.mp hlast)
    rw [if_neg heq, hnone, Option.getD_none, List.getLast?_concat]
    rfl

/-- What stands before the end of a body does not matter, unless it ends with an operator itself. -/
theorem endsWithOperator_append (hs : s.getLast?.any isTrailingOperator = false)
    (ht : ¬ Text.AllBlank t) : endsWithOperator (s ++ t) = endsWithOperator t := by
  obtain ⟨u, c, r, rfl, hc, hr⟩ := (Text.allBlank_or_exists_last t).resolve_left ht
  rw [← List.append_assoc, endsWithOperator_append_cons hc hr, endsWithOperator_append_cons hc hr]
  cases hu : u.getLast? with
  | some d => rw [List.getLast?_append, hu]; rfl
  | none =>
    obtain rfl := List.getLast?_eq_none_iff.mp hu
    rw [List.append_nil, hs]
    rfl

/-! ## Ternaries -/

theorem checkTernary_eq_ok_iff : checkTernary body = .ok () ↔
    (unquoted body).count '?' = (unquoted body).count ':' := by
  rcases Nat.lt_trichotomy ((unquoted body).count '?') ((unquoted body).count ':') with h | h | h
  · have hle : ¬ (unquoted body).count ':' < (unquoted body).count '?' := by omega
    simp only [checkTernary, if_neg hle, if_pos h]
    exact ⟨nofun, fun heq => by omega⟩
  · simp [checkTernary, h]
  · simp only [checkTernary, if_pos h]
    exact ⟨nofun, fun heq => by omega⟩

/-- The ternary check looks at two counts. -/
theorem checkTernary_congr (hq : (unquoted s).count '?' = (unquoted t).count '?')
    (hc : (unquoted s).count ':' = (unquoted t).count ':') : checkTernary s = checkTernary t := by
  simp only [checkTernary, hq, hc]

/-! ## All checks -/

theorem rule_of_checkDelimiters (h : checkDelimiters body = .error problem) :
    problem.rule = "cel::delimiters" := by
  rcases checkDelimiters_cases h with ⟨c, -, stack, hc⟩ | ⟨kind, -, rfl⟩ | ⟨stack, -, -, -, rfl⟩
  · cases hc <;> rfl
  · rfl
  · rfl

theorem rule_of_checkOperators (h : checkOperators body = .error problem) :
    problem.rule = "cel::operators" := by
  unfold checkOperators at h
  split at h
  · rw [← Except.error.inj h]
    rfl
  · split at h
    · rw [← Except.error.inj h]
      rfl
    · cases h

theorem rule_of_checkTernary (h : checkTernary body = .error problem) :
    problem.rule = "cel::ternary" := by
  simp only [checkTernary] at h
  split at h
  · rw [← Except.error.inj h]
    rfl
  · split at h
    · rw [← Except.error.inj h]
      rfl
    · cases h

theorem check_of_allBlank (h : Text.AllBlank body) : check body = .error .empty := by
  rw [check, if_pos (List.isEmpty_iff.mpr (Text.trim_eq_nil_iff.mpr h))]

/-- The first failure of the three checks is that of the body, if the body is not blank. -/
theorem check_of_not_allBlank (h : ¬ Text.AllBlank body) : check body =
    (checkDelimiters body).bind fun _ => (checkOperators body).bind fun _ => checkTernary body := by
  rw [check, if_neg]
  · rfl
  · rwa [List.isEmpty_iff, Text.trim_eq_nil_iff]

/-- The check of brackets and quotes has the first word. -/
theorem check_of_checkDelimiters_error (hblank : ¬ Text.AllBlank body)
    (h : checkDelimiters body = .error problem) : check body = .error problem := by
  rw [check_of_not_allBlank hblank, h]
  rfl

theorem check_of_checkDelimiters_ok (hblank : ¬ Text.AllBlank body)
    (h : checkDelimiters body = .ok ()) :
    check body = (checkOperators body).bind fun _ => checkTernary body := by
  rw [check_of_not_allBlank hblank, h]
  rfl

/-- A problem is that the body is blank, or one of the three checks has found it. -/
theorem check_cases (h : check body = .error problem) :
    problem = .empty ∨ checkDelimiters body = .error problem ∨
      checkOperators body = .error problem ∨ checkTernary body = .error problem := by
  by_cases hblank : Text.AllBlank body
  · rw [check_of_allBlank hblank] at h
    exact .inl (Except.error.inj h).symm
  · refine .inr ?_
    cases hd : checkDelimiters body with
    | error other =>
      rw [check_of_checkDelimiters_error hblank hd] at h
      exact .inl h
    | ok _ =>
      rw [check_of_checkDelimiters_ok hblank hd] at h
      cases ho : checkOperators body with
      | error other =>
        rw [ho] at h
        exact .inr (.inl h)
      | ok _ =>
        rw [ho] at h
        exact .inr (.inr h)

/-- Nothing in a text waits for what may follow it: its literals and brackets are closed, every `?`
has its `:`, and no operator in it is malformed. -/
structure SelfContained (t : Text) : Prop where
  closed : openQuote t = none
  balanced : Balanced ((unquoted t).filter isBracket)
  operatorFree : OperatorFree t
  paired : (unquoted t).count '?' = (unquoted t).count ':'

/-- What the checks accept. -/
structure Accepted (body : Text) : Prop extends SelfContained body where
  written : ¬ Text.AllBlank body
  ended : endsWithOperator body = false

theorem check_eq_ok_iff : check body = .ok () ↔ Accepted body := by
  by_cases hblank : Text.AllBlank body
  · rw [check_of_allBlank hblank]
    exact ⟨nofun, fun h => absurd hblank h.written⟩
  · constructor
    · intro h
      cases hd : checkDelimiters body with
      | error problem =>
        rw [check_of_checkDelimiters_error hblank hd] at h
        cases h
      | ok _ =>
        rw [check_of_checkDelimiters_ok hblank hd] at h
        cases ho : checkOperators body with
        | error problem => rw [ho] at h; cases h
        | ok _ =>
          rw [ho] at h
          obtain ⟨hclosed, hbalanced⟩ := checkDelimiters_eq_ok_iff.mp hd
          obtain ⟨hfree, hended⟩ := checkOperators_eq_ok_iff.mp ho
          exact ⟨⟨hclosed, hbalanced, hfree, checkTernary_eq_ok_iff.mp h⟩, hblank, hended⟩
    · intro h
      rw [check_of_checkDelimiters_ok hblank (checkDelimiters_eq_ok_iff.mpr ⟨h.closed, h.balanced⟩),
        checkOperators_eq_ok_iff.mpr ⟨h.operatorFree, h.ended⟩]
      exact checkTernary_eq_ok_iff.mpr h.paired

end GraphLint.Expression
