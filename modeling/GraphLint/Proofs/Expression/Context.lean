import GraphLint.Proofs.Expression.Segments
/-! # Neutralising a part of a text

Where a marker pair ends depends on what follows, so in general a text is not neutralised part by
part.  A text is `Closed` when each of its opening braces belongs to a pair of its own; then no pair
reaches beyond it, and it is neutralised as if it stood alone (`neutralise_append`).  Up to its
first pair nothing is changed at all (`neutralise_eq_lead`, `exists_neutralise_eq_lead_append`). -/
namespace GraphLint.Expression
variable {t : Text} {c : Char}

/-- Every opening brace of a text belongs to a marker pair. -/
def Closed (t : Text) : Prop := Segment.plain '{' ∉ segments t

instance : Decidable (Closed t) := inferInstanceAs (Decidable (_ ∉ _))

/-- No pair starts with anything but an opening brace. -/
theorem pairBody?_eq_none_of_ne (hc : c ≠ '{') (rest : Text) : pairBody? (c :: rest) = none := by
  cases hbody : pairBody? (c :: rest) with
  | none => rfl
  | some body =>
    obtain ⟨_, _, htext⟩ := pairBody?_eq_some_iff.mp hbody
    exact absurd (List.cons.inj htext).1.symm hc

/-- A closed text is cut as if it stood alone. -/
theorem segments_append (h : Closed t) (rest : Text) :
    segments (t ++ rest) = segments t ++ segments rest := by
  unfold Closed at h
  induction t using segmentsInduction with
  | nil => rfl
  | plain c t hpair ih =>
    rw [segments_cons hpair, List.mem_cons, not_or] at h
    have hc : c ≠ '{' := fun hc => h.1 (congrArg Segment.plain hc.symm)
    rw [List.cons_append, segments_cons (pairBody?_eq_none_of_ne hc (t ++ rest)),
      segments_cons hpair, ih h.2, List.cons_append]
  | pair body t hb ih =>
    rw [segments_pair hb, List.mem_cons, not_or] at h
    rw [List.append_assoc, segments_pair hb, segments_pair hb, ih h.2, List.cons_append]

theorem closed_append {s : Text} (hs : Closed s) (ht : Closed t) : Closed (s ++ t) := by
  unfold Closed at ht ⊢
  rw [segments_append hs, List.mem_append, not_or]
  exact ⟨hs, ht⟩

theorem closed_cons (hc : c ≠ '{') (ht : Closed t) : Closed (c :: t) := by
  unfold Closed at ht ⊢
  rw [segments_cons (pairBody?_eq_none_of_ne hc t), List.mem_cons, not_or]
  exact ⟨fun h => hc (Segment.plain.inj h).symm, ht⟩

theorem closed_pair {body : Text} (hb : '}' ∉ body) : Closed (Segment.pair body).text := by
  unfold Closed
  rw [← List.append_nil (Segment.pair body).text, segments_pair hb]
  simp

/-! ## Neutralising -/

section
variable {replacement rest : Text}

theorem replacePairs_cons (h : pairBody? (c :: rest) = none) :
    replacePairs replacement (c :: rest) = c :: replacePairs replacement rest := by
  simp only [replacePairs, segments_cons h, List.flatMap_cons, List.singleton_append]

theorem replacePairs_pair {body : Text} (hb : '}' ∉ body) (rest : Text) :
    replacePairs replacement ((Segment.pair body).text ++ rest) =
      replacement ++ replacePairs replacement rest := by
  simp only [replacePairs, segments_pair hb, List.flatMap_cons]

theorem neutralise_cons (h : pairBody? (c :: rest) = none) :
    neutralise (c :: rest) = c :: neutralise rest := replacePairs_cons h

theorem neutralise_pair {body : Text} (hb : '}' ∉ body) (rest : Text) :
    neutralise ((Segment.pair body).text ++ rest) = placeholder ++ neutralise rest :=
  replacePairs_pair hb rest

end

/-- **A closed text is neutralised as if it stood alone.** -/
theorem neutralise_append (h : Closed t) (rest : Text) :
    neutralise (t ++ rest) = neutralise t ++ neutralise rest := by
  simp only [neutralise, replacePairs, segments_append h, List.flatMap_append]

theorem mem_of_plain_mem_segments (h : .plain c ∈ segments t) : c ∈ t := by
  rw [← flatMap_text_segments t]
  exact List.mem_flatMap.mpr ⟨.plain c, h, List.mem_cons_self⟩

theorem mem_or_mem_placeholder (h : c ∈ neutralise t) : c ∈ t ∨ c ∈ placeholder := by
  obtain ⟨segment, hsegment, hc⟩ := List.mem_flatMap.mp h
  cases segment with
  | plain x =>
    rw [List.mem_singleton.mp hc]
    exact Or.inl (mem_of_plain_mem_segments hsegment)
  | pair body => exact Or.inr hc

/-! ## Up to the first pair -/

/-- Whether a segment is a pair. -/
def Segment.isPair : Segment → Bool
  | .plain _ => false
  | .pair _ => true

/-- Whether a text holds an expression. -/
def hasPair (t : Text) : Bool := (segments t).any Segment.isPair

/-- What stands before the first pair of a text. -/
def lead (t : Text) : Text := ((segments t).takeWhile fun s => !s.isPair).flatMap Segment.text

theorem mem_of_mem_lead (h : c ∈ lead t) : c ∈ t := by
  obtain ⟨segment, hsegment, hc⟩ := List.mem_flatMap.mp h
  rw [← flatMap_text_segments t]
  exact List.mem_flatMap.mpr ⟨segment, (List.takeWhile_sublist _).subset hsegment, hc⟩

theorem lead_cons {rest : Text} (h : pairBody? (c :: rest) = none) :
    lead (c :: rest) = c :: lead rest := by
  simp only [lead, segments_cons h, Segment.isPair, List.takeWhile_cons, Bool.not_false, if_true,
    List.flatMap_cons, Segment.text, List.singleton_append]

theorem lead_pair {body : Text} (hb : '}' ∉ body) (rest : Text) :
    lead ((Segment.pair body).text ++ rest) = [] := by
  simp [lead, segments_pair hb, Segment.isPair]

/-- A text without expressions stays as it is. -/
theorem neutralise_eq_lead (h : hasPair t = false) : neutralise t = lead t := by
  unfold hasPair at h
  induction t using segmentsInduction with
  | nil => rfl
  | plain c t hpair ih =>
    rw [segments_cons hpair, List.any_cons] at h
    rw [neutralise_cons hpair, lead_cons hpair, ih h]
  | pair body t hb ih =>
    rw [segments_pair hb] at h
    cases h

/-- What stands before the first expression stays as it is, and the placeholder follows. -/
theorem exists_neutralise_eq_lead_append (h : hasPair t = true) :
    ∃ rest, neutralise t = lead t ++ placeholder ++ rest := by
  unfold hasPair at h
  induction t using segmentsInduction with
  | nil => cases h
  | plain c t hpair ih =>
    rw [segments_cons hpair, List.any_cons] at h
    obtain ⟨rest, hrest⟩ := ih h
    exact ⟨rest, by rw [neutralise_cons hpair, lead_cons hpair, hrest]; rfl⟩
  | pair body t hb ih =>
    exact ⟨neutralise t, by rw [neutralise_pair hb, lead_pair hb]; rfl⟩

end GraphLint.Expression
