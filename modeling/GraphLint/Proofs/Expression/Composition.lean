import GraphLint.Validation
import GraphLint.Proofs.Expression.Margins
/-! # Expressions built from accepted parts

Accepted bodies are put together by brackets around one of them, by brackets around one behind another
one, and by `?` and `:` between three of them.  What joins them is a seam: it has no quote, and no
malformed operator has a character of it.  A part before a seam leaves no literal open, so the scan
yields the parts and the seams one after the other (`IsSeam.scan_append`), the brackets of the parts
stay balanced among those of the seams, and no malformed operator arises (`IsSeam.operatorFree_append`).
So the whole is self-contained because its parts are.  What it ends with is a closing bracket, or what
the last part ends with. -/
namespace GraphLint.Expression
variable {a b s t body : Text} {o c : Char}

/-- Bodies that are built from accepted ones, to any depth. -/
inductive Composed : Text → Prop
  | part {a : Text} (h : check a = .ok ()) : Composed a
  | group {a : Text} {o c : Char} (hoc : (o, c) ∈ brackets) (ha : Composed a) :
      Composed ([o] ++ a ++ [c])
  | applied {a b : Text} {o c : Char} (hoc : (o, c) ∈ brackets) (ha : Composed a)
      (hb : Composed b) : Composed (a ++ [o] ++ b ++ [c])
  | ternary {a b c : Text} (ha : Composed a) (hb : Composed b) (hc : Composed c) :
      Composed (a ++ " ? ".toList ++ b ++ " : ".toList ++ c)

/-! ## Seams -/

/-- A text that joins two others without a quote and without a character of a malformed operator. -/
structure IsSeam (s : Text) : Prop where
  ne_nil : s ≠ []
  markFree : ∀ kind : QuoteKind, kind.mark ∉ s
  inert : s.all isInert = true

/-- The scan yields a seam, and what it joins one after the other. -/
theorem IsSeam.scan_append (hs : IsSeam s) (ha : openQuote a = none) (t : Text) :
    unquoted (a ++ (s ++ t)) = unquoted a ++ (s ++ unquoted t) ∧
      openQuote (a ++ (s ++ t)) = openQuote t := by
  obtain ⟨hyield, hopen⟩ := scan_of_forall_mark_not_mem hs.markFree
  have hclosed : openQuote s = none := hopen none
  rw [unquoted_append ha, unquoted_append hclosed, openQuote_append ha, openQuote_append hclosed,
    hyield]
  exact ⟨rfl, rfl⟩

/-- No malformed operator arises across a seam. -/
theorem IsSeam.operatorFree_append (hs : IsSeam s) (ha : OperatorFree a) (ht : OperatorFree t) :
    OperatorFree (a ++ (s ++ t)) := by
  obtain ⟨hne, -, hinert⟩ := hs
  induction s generalizing a with
  | nil => exact absurd rfl hne
  | cons c s ih =>
    rw [List.all_cons, Bool.and_eq_true] at hinert
    obtain ⟨hc, hinert⟩ := hinert
    rw [List.cons_append, operatorFree_append_cons hc]
    refine ⟨ha, ?_⟩
    by_cases hnil : s = []
    · rwa [hnil]
    · exact ih operatorFree_nil hnil hinert

/-- What the checks make of a bracket itself: it is a seam, it is no part of a ternary, and it ends a
body well. -/
structure IsEdge (c : Char) : Prop where
  seam : IsSeam [c]
  visible : Text.isBlank c = false
  question : c ≠ '?'
  colon : c ≠ ':'
  equals : c ≠ '='
  operator : isTrailingOperator c = false

theorem isEdge_of_isBracket (h : isBracket c = true) : IsEdge c := by
  have hvisible := isBlank_of_isBracket h
  simp only [isBracket, brackets, List.any_cons, List.any_nil, Bool.or_false, Bool.or_eq_true,
    beq_iff_eq] at h
  rcases h with (rfl | rfl) | (rfl | rfl) | (rfl | rfl) <;>
    exact ⟨⟨by decide, fun kind => by cases kind <;> decide, by decide⟩, hvisible, by decide,
      by decide, by decide, by decide⟩

theorem isSeam_question : IsSeam " ? ".toList :=
  ⟨by decide, fun kind => by cases kind <;> decide, by decide⟩

theorem isSeam_colon : IsSeam " : ".toList :=
  ⟨by decide, fun kind => by cases kind <;> decide, by decide⟩

/-! ## Parts make a whole -/

theorem selfContained_nil : SelfContained [] := ⟨rfl, .nil, operatorFree_nil, rfl⟩

/-- One part in brackets behind another one. -/
theorem SelfContained.enclose (ha : SelfContained a) (hoc : (o, c) ∈ brackets)
    (hb : SelfContained b) : SelfContained (a ++ ([o] ++ (b ++ [c]))) := by
  obtain ⟨hobracket, hcbracket⟩ := isBracket_of_mem hoc
  have ho := isEdge_of_isBracket hobracket
  have hc := isEdge_of_isBracket hcbracket
  obtain ⟨hyieldc, hopenc⟩ := hc.seam.scan_append hb.closed []
  obtain ⟨hyield, hopen⟩ := ho.seam.scan_append ha.closed (b ++ [c])
  rw [List.append_nil] at hyieldc hopenc
  have hout : unquoted (a ++ ([o] ++ (b ++ [c]))) =
      unquoted a ++ ([o] ++ (unquoted b ++ [c])) := by
    rw [hyield, hyieldc]
    rfl
  constructor
  case closed => rw [hopen, hopenc]; rfl
  case balanced =>
    have hword : (unquoted a ++ ([o] ++ (unquoted b ++ [c]))).filter isBracket =
        (unquoted a).filter isBracket ++ o :: ((unquoted b).filter isBracket ++ [c]) := by
      simp [hobracket, hcbracket]
    rw [hout, hword]
    exact ha.balanced.group hoc hb.balanced
  case operatorFree =>
    have hlast := hc.seam.operatorFree_append hb.operatorFree operatorFree_nil
    rw [List.append_nil] at hlast
    exact ho.seam.operatorFree_append ha.operatorFree hlast
  case paired =>
    rw [hout]
    simp [List.count_append, ho.question, ho.colon, hc.question, hc.colon,
      ha.paired, hb.paired]

/-- Three parts as a ternary. -/
theorem SelfContained.ternary {c : Text} (ha : SelfContained a) (hb : SelfContained b)
    (hc : SelfContained c) :
    SelfContained (a ++ (" ? ".toList ++ (b ++ (" : ".toList ++ c)))) := by
  obtain ⟨hyieldc, hopenc⟩ := isSeam_colon.scan_append hb.closed c
  obtain ⟨hyield, hopen⟩ := isSeam_question.scan_append ha.closed (b ++ (" : ".toList ++ c))
  have hout : unquoted (a ++ (" ? ".toList ++ (b ++ (" : ".toList ++ c)))) =
      unquoted a ++ (" ? ".toList ++ (unquoted b ++ (" : ".toList ++ unquoted c))) := by
    rw [hyield, hyieldc]
  constructor
  case closed => rw [hopen, hopenc, hc.closed]
  case balanced =>
    have hquestion : " ? ".toList.filter isBracket = [] := by decide
    have hcolon : " : ".toList.filter isBracket = [] := by decide
    rw [hout, List.filter_append, List.filter_append, List.filter_append, List.filter_append,
      hquestion, hcolon, List.nil_append, List.nil_append]
    exact ha.balanced.append (hb.balanced.append hc.balanced)
  case operatorFree =>
    exact isSeam_question.operatorFree_append ha.operatorFree
      (isSeam_colon.operatorFree_append hb.operatorFree hc.operatorFree)
  case paired =>
    have hquestion : " ? ".toList.count '?' = 1 ∧ " ? ".toList.count ':' = 0 := by decide
    have hcolon : " : ".toList.count '?' = 0 ∧ " : ".toList.count ':' = 1 := by decide
    have hpa := ha.paired
    have hpb := hb.paired
    have hpc := hc.paired
    rw [hout]
    simp only [List.count_append]
    omega

theorem endsWithOperator_concat (hc : IsEdge c) (s : Text) :
    endsWithOperator (s ++ [c]) = false := by
  rw [endsWithOperator_append_cons hc.visible (List.forall_mem_nil _), if_neg hc.equals,
    hc.operator]

/-- **What is built from accepted bodies is accepted.** -/
theorem Composed.accepted (h : Composed body) : Accepted body := by
  induction h with
  | part h => exact check_eq_ok_iff.mp h
  | @group a o c hoc _ ha =>
    have hc := isEdge_of_isBracket (isBracket_of_mem hoc).2
    refine ⟨?_, fun h => h.not_mem hc.visible (by simp), endsWithOperator_concat hc _⟩
    rw [List.append_assoc]
    exact selfContained_nil.enclose hoc ha.toSelfContained
  | @applied a b o c hoc _ _ ha hb =>
    have hc := isEdge_of_isBracket (isBracket_of_mem hoc).2
    refine ⟨?_, fun h => h.not_mem hc.visible (by simp), endsWithOperator_concat hc _⟩
    rw [List.append_assoc, List.append_assoc]
    exact ha.toSelfContained.enclose hoc hb.toSelfContained
  | @ternary a b c _ _ _ ha hb hc =>
    refine ⟨?_, fun h => h.not_mem (d := '?') (by decide) (by simp), ?_⟩
    · simp only [List.append_assoc]
      exact ha.toSelfContained.ternary hb.toSelfContained hc.toSelfContained
    · -- the last part is not blank, so the end of the whole is its end
      refine (endsWithOperator_append ?_ hc.written).trans hc.ended
      rw [List.getLast?_append]
      rfl

/-- **Accepted expressions compose.**  Grouping, indexing, calls and ternaries of accepted bodies are
accepted, to any depth, and an expression whose body is built so, up to white space at its ends, is
never reported. -/
theorem check_composed (h : Composed body) : check body = .ok () ∧
    ∀ (config : Config) (span : Span), span.body = Text.trim body →
      Validation.checkSpan config span = none := by
  have hok : check body = .ok () := check_eq_ok_iff.mpr h.accepted
  refine ⟨hok, fun config span hbody => ?_⟩
  rw [Validation.checkSpan, hbody, check_trim, hok]

/-- A call, an index and a group as the parts of a ternary, in a group. -/
def nestedTernary : Text := "(has(spec.ports) ? spec.ports[0 ==] : [ '?]' ])".toList

theorem check_composed_nestedTernary : Composed nestedTernary ∧ check nestedTernary = .ok () ∧
    ∀ config, ∀ span ∈ spans ("a: \x7b\x7b\t".toList ++ nestedTernary ++ " \x7d\x7d".toList),
      Validation.checkSpan config span = none := by
  have hround : ('(', ')') ∈ brackets := by decide
  have hsquare : ('[', ']') ∈ brackets := by decide
  have hcall : Composed "has(spec.ports)".toList :=
    .applied hround (.part (a := "has".toList) (by decide))
      (.part (a := "spec.ports".toList) (by decide))
  have hindex : Composed "spec.ports[0 ==]".toList :=
    .applied hsquare (.part (a := "spec.ports".toList) (by decide))
      (.part (a := "0 ==".toList) (by decide))
  have hgroup : Composed "[ '?]' ]".toList :=
    .group hsquare (.part (a := " '?]' ".toList) (by decide))
  have h : Composed nestedTernary := .group hround (.ternary hcall hindex hgroup)
  have hbody : ∀ span ∈ spans ("a: \x7b\x7b\t".toList ++ nestedTernary ++ " \x7d\x7d".toList),
      span.body = Text.trim nestedTernary := by decide +kernel
  obtain ⟨hok, hnone⟩ := check_composed h
  exact ⟨h, hok, fun config span hspan => hnone config span (hbody span hspan)⟩

end GraphLint.Expression
