import GraphLint.Proofs.Expression.Context
import GraphLint.Proofs.Expression.Locator
/-! # Nothing is left to neutralise

Taking a pair out of a text might join the braces on its two sides, or uncover an opening marker
that the pair had swallowed.  It does neither as long as the replacement is not empty and holds no
brace: a brace of the result is then a brace of the text, and its neighbours in the result are its
neighbours in the text (`exists_eq_cons_of_replacePairs_eq_cons`).  A closing marker of the result
closes whatever is open in the text (`exists_closed_of_replacePairs`), so a pair of the result would
be one of the text that starts before the pairs that were replaced, and the cut takes the leftmost
ones.  Hence the result holds no pair (`markerFree_replacePairs`), and a text without pairs is what
both the locator and the neutraliser leave alone. -/
namespace GraphLint.Expression
variable {t text replacement : Text} {c : Char}

/-- A text holds no marker pair, within a line or across lines. -/
def MarkerFree (t : Text) : Prop := ∀ body, '}' ∉ body → ¬ openMarker ++ body ++ closeMarker <:+: t

/-! ## Texts without pairs -/

theorem markerFree_nil : MarkerFree [] := fun body _ h => by
  simpa [openMarker] using List.infix_nil.mp h

theorem markerFree_cons : MarkerFree (c :: t) ↔ pairBody? (c :: t) = none ∧ MarkerFree t := by
  constructor
  · refine fun h => ⟨?_, fun body hb hin => h body hb (List.infix_cons hin)⟩
    cases hp : pairBody? (c :: t) with
    | none => rfl
    | some body =>
      obtain ⟨hb, hpre⟩ := pairBody?_eq_some_iff.mp hp
      exact absurd hpre.isInfix (h body hb)
  · rintro ⟨hp, h⟩ body hb hin
    rcases List.infix_cons_iff.mp hin with hpre | hin
    · rw [pairBody?_eq_some_iff.mpr ⟨hb, hpre⟩] at hp
      cases hp
    · exact h body hb hin

/-- Without an opening brace nothing can start a pair. -/
theorem markerFree_append {s : Text} (hs : '{' ∉ s) (ht : MarkerFree t) : MarkerFree (s ++ t) := by
  induction s with
  | nil => exact ht
  | cons c s ih =>
    obtain ⟨hc, hs⟩ := not_or.mp (mt List.mem_cons.mpr hs)
    exact markerFree_cons.mpr ⟨pairBody?_eq_none_of_ne (Ne.symm hc) _, ih hs⟩

/-- The neutraliser leaves a text without pairs as it is. -/
theorem MarkerFree.neutralise_eq (h : MarkerFree t) : neutralise t = t := by
  induction t with
  | nil => rfl
  | cons c t ih =>
    obtain ⟨hp, ht⟩ := markerFree_cons.mp h
    rw [neutralise_cons hp, ih ht]

/-- The locator finds nothing in a text without pairs. -/
theorem MarkerFree.spans_eq_nil (h : MarkerFree t) : spans t = [] := by
  rw [spans_eq_map_located, List.map_eq_nil_iff, List.eq_nil_iff_forall_not_mem]
  intro p hp
  obtain ⟨⟨hb, hpre⟩, _⟩ := occursIn_of_mem_located hp
  exact h p.body hb (hpre.isInfix.trans (List.drop_suffix _ _).isInfix)

/-! ## What a replacement can uncover -/

/-- A text that may stand for a pair: it is not empty and holds no brace. -/
structure Inert (replacement : Text) : Prop where
  ne_nil : replacement ≠ []
  open_not_mem : '{' ∉ replacement
  close_not_mem : '}' ∉ replacement

theorem inert_placeholder : Inert placeholder := ⟨by decide, by decide, by decide⟩

/-- A character that starts the result and is not part of the replacement starts the text. -/
theorem exists_eq_cons_of_replacePairs_eq_cons (hne : replacement ≠ []) (hc : c ∉ replacement)
    {rest : Text} (h : replacePairs replacement text = c :: rest) :
    ∃ s, text = c :: s ∧ rest = replacePairs replacement s := by
  cases text using segmentsInduction with
  | nil => cases h
  | plain d s hd _ =>
    rw [replacePairs_cons hd] at h
    obtain ⟨rfl, rfl⟩ := List.cons.inj h
    exact ⟨s, rfl, rfl⟩
  | pair body s hb _ =>
    rw [replacePairs_pair hb] at h
    obtain ⟨d, r, rfl⟩ := List.exists_cons_of_ne_nil hne
    exact absurd ((List.cons.inj h).1 ▸ List.mem_cons_self) hc

/-- A closing marker of the result with no closing brace before it closes what is open at the start
of the text. -/
theorem exists_closed_of_replacePairs (hr : Inert replacement) {body : Text} (hb : '}' ∉ body)
    (h : body ++ closeMarker <+: replacePairs replacement text) :
    ∃ inner, '}' ∉ inner ∧ inner ++ closeMarker <+: text := by
  induction text using segmentsInduction generalizing body with
  | nil =>
    have hnil := List.prefix_nil.mp h
    simp [closeMarker] at hnil
  | plain c s hc ih =>
    rw [replacePairs_cons hc] at h
    cases body with
    | nil =>
      obtain ⟨rfl, tail, htail⟩ := List.cons_prefix_cons.mp h
      obtain ⟨s, rfl, _⟩ :=
        exists_eq_cons_of_replacePairs_eq_cons hr.ne_nil hr.close_not_mem htail.symm
      exact ⟨[], List.not_mem_nil, s, rfl⟩
    | cons d body =>
      obtain ⟨rfl, hpre⟩ := List.cons_prefix_cons.mp h
      obtain ⟨hd, hb⟩ := not_or.mp (mt List.mem_cons.mpr hb)
      obtain ⟨inner, hinner, hclose⟩ := ih hb hpre
      exact ⟨d :: inner, mt List.mem_cons.mp (not_or.mpr ⟨hd, hinner⟩),
        List.cons_prefix_cons.mpr ⟨rfl, hclose⟩⟩
  | pair inner s hinner _ =>
    -- the pair at the start of the text is closed, whatever the result goes on with
    exact ⟨openMarker ++ inner, by simpa [openMarker] using hinner, s, rfl⟩

/-- No pair starts at a character of the result unless one starts there in the text. -/
theorem pairBody?_replacePairs (hr : Inert replacement) (h : pairBody? (c :: text) = none) :
    pairBody? (c :: replacePairs replacement text) = none := by
  cases hp : pairBody? (c :: replacePairs replacement text) with
  | none => rfl
  | some body =>
    obtain ⟨hb, tail, htail⟩ := pairBody?_eq_some_iff.mp hp
    obtain ⟨rfl, hrest⟩ := List.cons.inj htail
    obtain ⟨s, rfl, hs⟩ :=
      exists_eq_cons_of_replacePairs_eq_cons hr.ne_nil hr.open_not_mem hrest.symm
    obtain ⟨inner, hinner, rest, rfl⟩ := exists_closed_of_replacePairs hr hb ⟨tail, hs⟩
    -- the two braces and what closes them are a pair of the text
    have hpair := pairBody?_text_append hinner rest
    rw [Segment.text_pair, List.cons_append, List.cons_append, h] at hpair
    cases hpair

/-- **No pair is left** when every pair is replaced by a text that is not empty and has no brace. -/
theorem markerFree_replacePairs (hr : Inert replacement) (text : Text) :
    MarkerFree (replacePairs replacement text) := by
  induction text using segmentsInduction with
  | nil => exact markerFree_nil
  | plain c s hc ih =>
    rw [replacePairs_cons hc]
    exact markerFree_cons.mpr ⟨pairBody?_replacePairs hr hc, ih⟩
  | pair body s hb ih =>
    rw [replacePairs_pair hb]
    exact markerFree_append hr.open_not_mem ih

/-- **Neutralising is complete**: no pair is left, so the locator finds nothing in the result, and
the result is neutralised already.  What stays as it is are exactly the texts without pairs. -/
theorem neutralise_complete (text : Text) :
    MarkerFree (neutralise text) ∧ spans (neutralise text) = [] ∧
      neutralise (neutralise text) = neutralise text ∧
      (neutralise text = text ↔ MarkerFree text) := by
  have hfree : MarkerFree (neutralise text) := markerFree_replacePairs inert_placeholder text
  exact ⟨hfree, hfree.spans_eq_nil, hfree.neutralise_eq, fun h => h ▸ hfree,
    MarkerFree.neutralise_eq⟩

/-- Around a pair that swallows an opening marker a stray brace and a closing marker are left. -/
example : neutralise ("\x7b \x7b\x7b a \x7b\x7b".toList ++ "\n\x7d\x7d\x7d \x7d\x7d".toList) =
    "\x7b ".toList ++ placeholder ++ "\x7d \x7d\x7d".toList := by
  decide

end GraphLint.Expression
