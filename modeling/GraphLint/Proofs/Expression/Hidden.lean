import GraphLint.Proofs.Expression.Checks
/-! # What a literal hides

Two bodies that differ in the content of one literal are scanned alike up to that literal.  In it
nothing is yielded, whatever it holds, and behind it nothing is open in either body, so both scans go
on alike (`scan_around_literal`).  All that the check of brackets and quotes and the ternary check see
of a body is what the scan yields and leaves open, so they cannot tell the two apart
(`SameOutside`).  The check of operators reads the body itself, and it alone can: the answers about
the two bodies differ where it answers differently, if brackets and quotes are in order, and nowhere
else (`alikeButOperators_of_sameOutside`). -/
namespace GraphLint.Expression
variable {s t pre x y : Text} {kind : QuoteKind} {problem : Problem}

/-- A closed literal that holds `content`. -/
def QuoteKind.literal (kind : QuoteKind) (content : Text) : Text :=
  kind.mark :: (content ++ [kind.mark])

/-- The scan yields the same characters of two bodies and ends with the same literal open. -/
structure SameOutside (s t : Text) : Prop where
  yielded : unquoted s = unquoted t
  left : openQuote s = openQuote t

/-- **Around a closed literal the scan goes on as if it were not there.** -/
theorem scan_around_literal (hpre : openQuote pre = none) (hx : kind.mark ∉ x) (post : Text) :
    unquoted (pre ++ kind.literal x ++ post) = unquoted pre ++ unquoted post ∧
      openQuote (pre ++ kind.literal x ++ post) = openQuote post := by
  have hsplit : pre ++ kind.literal x ++ post =
      pre ++ kind.mark :: (x ++ kind.mark :: post) := by
    simp [QuoteKind.literal]
  obtain ⟨hyield, hopen⟩ := scan_literal hx post
  rw [hsplit, unquoted_append hpre, openQuote_append hpre]
  exact ⟨congrArg (unquoted pre ++ ·) hyield, hopen⟩

theorem sameOutside_literal (hpre : openQuote pre = none) (hx : kind.mark ∉ x)
    (hy : kind.mark ∉ y) (post : Text) :
    SameOutside (pre ++ kind.literal x ++ post) (pre ++ kind.literal y ++ post) := by
  obtain ⟨hxyield, hxopen⟩ := scan_around_literal hpre hx post
  obtain ⟨hyyield, hyopen⟩ := scan_around_literal hpre hy post
  exact ⟨hxyield.trans hyyield.symm, hxopen.trans hyopen.symm⟩

theorem not_allBlank_literal (pre : Text) (kind : QuoteKind) (x post : Text) :
    ¬ Text.AllBlank (pre ++ kind.literal x ++ post) := by
  intro h
  have hmark : Text.isBlank kind.mark = false := by cases kind <;> decide
  exact h.not_mem hmark (by simp [QuoteKind.literal])

/-! ## What the checks see -/

theorem SameOutside.checkDelimiters_eq (h : SameOutside s t) :
    checkDelimiters s = checkDelimiters t := by
  rw [checkDelimiters, checkDelimiters, h.yielded, h.left]

theorem SameOutside.checkTernary_eq (h : SameOutside s t) : checkTernary s = checkTernary t :=
  checkTernary_congr (by rw [h.yielded]) (by rw [h.yielded])

/-- A problem with operators is none with ternaries. -/
theorem checkTernary_ne_of_checkOperators (h : checkOperators s = .error problem) :
    checkTernary t ≠ .error problem := by
  intro ht
  have := (rule_of_checkOperators h).symm.trans (rule_of_checkTernary ht)
  exact absurd this (by decide)

/-- Only the check of operators can tell two bodies apart. -/
structure AlikeButOperators (s t : Text) : Prop where
  delimiters : checkDelimiters s = checkDelimiters t
  ternary : checkTernary s = checkTernary t
  /-- Different answers come from different answers of that check. -/
  answer : check s ≠ check t → checkOperators s ≠ checkOperators t
  /-- One of them is then that an operator is wrong. -/
  reported : check s ≠ check t → ∃ problem, problem.rule = "cel::operators" ∧
    (check s = .error problem ∨ check t = .error problem)
  /-- Where brackets and quotes are in order, its different answers show. -/
  answer_iff : checkDelimiters s = .ok () →
    (check s = check t ↔ checkOperators s = checkOperators t)

theorem alikeButOperators_of_sameOutside (h : SameOutside s t) (hs : ¬ s.AllBlank)
    (ht : ¬ t.AllBlank) : AlikeButOperators s t := by
  have hdelimiters := h.checkDelimiters_eq
  have hternary := h.checkTernary_eq
  have hsame : checkOperators s = checkOperators t → check s = check t := by
    intro hop
    rw [check_of_not_allBlank hs, check_of_not_allBlank ht, hdelimiters, hop, hternary]
  have hrun : checkDelimiters s = .ok () →
      check s = ((checkOperators s).bind fun _ => checkTernary s) ∧
        check t = ((checkOperators t).bind fun _ => checkTernary t) := by
    intro hok
    exact ⟨check_of_checkDelimiters_ok hs hok, check_of_checkDelimiters_ok ht (hdelimiters ▸ hok)⟩
  constructor
  case delimiters => exact hdelimiters
  case ternary => exact hternary
  case answer => exact mt hsame
  case reported =>
    intro hne
    cases hd : checkDelimiters s with
    | error problem =>
      -- the check of brackets and quotes has the first word, and it is the same
      refine absurd ?_ hne
      rw [check_of_checkDelimiters_error hs hd,
        check_of_checkDelimiters_error ht (hdelimiters ▸ hd)]
    | ok _ =>
      obtain ⟨hruns, hrunt⟩ := hrun hd
      cases hops : checkOperators s with
      | error problem =>
        rw [hops] at hruns
        exact ⟨problem, rule_of_checkOperators hops, .inl hruns⟩
      | ok _ =>
        cases hopt : checkOperators t with
        | error problem =>
          rw [hopt] at hrunt
          exact ⟨problem, rule_of_checkOperators hopt, .inr hrunt⟩
        | ok _ => exact absurd (hsame (hops.trans hopt.symm)) hne
  case answer_iff =>
    intro hok
    refine ⟨fun heq => ?_, hsame⟩
    obtain ⟨hruns, hrunt⟩ := hrun hok
    rw [hruns, hrunt] at heq
    cases hops : checkOperators s with
    | error problem =>
      cases hopt : checkOperators t with
      | error other =>
        rw [hops, hopt] at heq
        exact heq
      | ok _ =>
        rw [hops, hopt] at heq
        exact absurd heq.symm (checkTernary_ne_of_checkOperators hops)
    | ok _ =>
      cases hopt : checkOperators t with
      | error problem =>
        rw [hops, hopt] at heq
        exact absurd heq (checkTernary_ne_of_checkOperators hopt)
      | ok _ => rfl

/-- **What a closed literal holds is hidden from the checks of brackets, quotes and ternaries**,
whatever stands around it.  So the answers about two bodies that differ in it alone differ only where
the check of operators, which reads literals too, answers differently. -/
theorem literal_hidden (hpre : openQuote pre = none) (hx : kind.mark ∉ x) (hy : kind.mark ∉ y)
    (post : Text) :
    AlikeButOperators (pre ++ kind.literal x ++ post) (pre ++ kind.literal y ++ post) :=
  alikeButOperators_of_sameOutside (sameOutside_literal hpre hx hy post)
    (not_allBlank_literal pre kind x post) (not_allBlank_literal pre kind y post)

/-- The literal stands behind one of the other kind that holds its quote, and it is filled with
brackets, punctuation of ternaries and the other quote, or with nothing; what follows leaves a bracket
and a literal open. -/
theorem literal_hidden_otherQuotes :
    openQuote "f(\"it's\", ".toList = none ∧ QuoteKind.single.mark ∉ ")]? :\"".toList ∧
      QuoteKind.single.mark ∉ ([] : Text) ∧
      AlikeButOperators ("f(\"it's\", ".toList ++ QuoteKind.single.literal ")]? :\"".toList ++
        " ? [ \"".toList)
        ("f(\"it's\", ".toList ++ QuoteKind.single.literal [] ++ " ? [ \"".toList) := by
  have hpre : openQuote "f(\"it's\", ".toList = none := by decide
  have hx : QuoteKind.single.mark ∉ ")]? :\"".toList := by decide
  have hy : QuoteKind.single.mark ∉ ([] : Text) := by decide
  exact ⟨hpre, hx, hy, literal_hidden hpre hx hy " ? [ \"".toList⟩

/-- The check of operators does read a literal. -/
example : check "a == '++'".toList = .error (.invalidOperator "++".toList) ∧
    check "a == '+'".toList = .ok () := by
  decide

end GraphLint.Expression
