import GraphLint.Proofs.Expression.Segments
import Mathlib.Data.List.Basic
/-! # The marker pairs of a text and where they stand

`pairs` lists the marker pairs that the cut of a text finds, each with the number of characters
before it.  The cut goes from left to right and skips what it has found; the statements here say
what it finds without speaking of the scan.  A text may hold pairs that overlap, as `{{{ x }}`
does, but overlapping pairs end at the same character (`Pair.OccursIn.stop_eq`).  So the pairs
that occur fall into groups of one end each, and the cut finds the leftmost pair of every group
(`mem_pairs_iff`). -/
namespace GraphLint.Expression

/-- A marker pair at a place of a text. -/
structure Pair where
  /-- The number of characters before the pair. -/
  start : Nat
  body : Text
  deriving DecidableEq, Repr

namespace Pair

/-- The characters of a pair, markers included. -/
def text (p : Pair) : Text := (Segment.pair p.body).text

/-- The number of characters up to the end of a pair. -/
def stop (p : Pair) : Nat := p.start + p.body.length + 4

/-- The pair with `n` more characters before it. -/
def shift (n : Nat) (p : Pair) : Pair := ⟨n + p.start, p.body⟩

/-- A text holds a pair at its place, whether or not the cut finds it. -/
def OccursIn (text : Text) (p : Pair) : Prop := '}' ∉ p.body ∧ p.text <+: text.drop p.start

/-- All characters of `q` are characters of `p`. -/
def Covers (p q : Pair) : Prop := p.start ≤ q.start ∧ q.stop ≤ p.stop

/-- A text holds a pair, and no pair that starts before it reaches into it. -/
def IsLeftmostIn (text : Text) (p : Pair) : Prop :=
  p.OccursIn text ∧ ∀ q : Pair, q.OccursIn text → q.start < p.start → q.stop ≤ p.start

@[simp] theorem length_text (p : Pair) : p.text.length = p.body.length + 4 :=
  Segment.length_text_pair p.body

@[simp] theorem start_shift (n : Nat) (p : Pair) : (p.shift n).start = n + p.start := rfl

@[simp] theorem body_shift (n : Nat) (p : Pair) : (p.shift n).body = p.body := rfl

@[simp] theorem text_shift (n : Nat) (p : Pair) : (p.shift n).text = p.text := rfl

@[simp] theorem stop_shift (n : Nat) (p : Pair) : (p.shift n).stop = n + p.stop := by
  simp only [stop, start_shift, body_shift]
  omega

theorem shift_injective (n : Nat) : Function.Injective (shift n) := by
  rintro ⟨s, b⟩ ⟨s', b'⟩ h
  obtain ⟨hs, rfl⟩ := Pair.mk.inj h
  obtain rfl : s = s' := Nat.add_left_cancel hs
  rfl

/-- A pair with at least `n` characters before it is a pair with `n` more characters before it. -/
theorem exists_eq_shift {n : Nat} {p : Pair} (h : n ≤ p.start) : ∃ q : Pair, p = q.shift n :=
  ⟨⟨p.start - n, p.body⟩, by rw [shift, Nat.add_sub_cancel' h]⟩

theorem start_lt_stop (p : Pair) : p.start < p.stop := by unfold stop; omega

/-! ## Overlapping pairs -/

section Overlap
variable {text : Text} {p q : Pair}

theorem OccursIn.getElem? (h : p.OccursIn text) {i : Nat} (hi : i < p.body.length + 4) :
    text[p.start + i]? = p.text[i]? := by
  obtain ⟨tail, htail⟩ := h.2
  rw [← List.getElem?_drop, ← htail, List.getElem?_append_left (by simpa using hi)]

/-- Up to its closing marker a pair holds no `}`. -/
theorem OccursIn.getElem?_ne (h : p.OccursIn text) {i : Nat} (hle : p.start ≤ i)
    (hlt : i + 2 < p.stop) : text[i]? ≠ some '}' := by
  obtain ⟨k, rfl⟩ := Nat.exists_eq_add_of_le hle
  have hk : k < p.body.length + 2 := by unfold stop at hlt; omega
  rw [h.getElem? (by omega), Pair.text, Segment.text_pair]
  match k with
  | 0 => simp
  | 1 => simp
  | k + 2 =>
    rw [List.getElem?_cons_succ, List.getElem?_cons_succ, List.getElem?_append_left (by omega)]
    exact fun he => h.1 (List.mem_of_getElem? he)

/-- The last two characters of a pair are `}`. -/
theorem OccursIn.getElem?_close (h : p.OccursIn text) {i : Nat}
    (hi : i + 1 = p.stop ∨ i + 2 = p.stop) : text[i]? = some '}' := by
  unfold stop at hi
  obtain ⟨k, rfl⟩ := Nat.exists_eq_add_of_le (show p.start + p.body.length + 2 ≤ i by omega)
  rw [show p.start + p.body.length + 2 + k = p.start + (p.body.length + k + 2) by omega,
    h.getElem? (by omega), Pair.text, Segment.text_pair, List.getElem?_cons_succ,
    List.getElem?_cons_succ, List.getElem?_append_right (by omega), Nat.add_sub_cancel_left]
  match k with
  | 0 => rfl
  | 1 => rfl
  | k + 2 => omega

/-- **Overlapping pairs end at the same character**: both run up to the first `}` after the later
one of their starts. -/
theorem OccursIn.stop_eq (hp : p.OccursIn text) (hq : q.OccursIn text) (hle : p.start ≤ q.start)
    (hlt : q.start < p.stop) : p.stop = q.stop := by
  have hq2 : q.start + 2 < q.stop := by unfold stop; omega
  have hin : q.start + 2 < p.stop := by
    apply Classical.byContradiction
    intro hn
    exact hq.getElem?_ne (Nat.le_refl _) hq2 (hp.getElem?_close (by omega))
  rcases Nat.lt_trichotomy p.stop q.stop with h | h | h
  · exact absurd (hp.getElem?_close (i := p.stop - 2) (by omega))
      (hq.getElem?_ne (by omega) (by omega))
  · exact h
  · exact absurd (hq.getElem?_close (i := q.stop - 2) (by omega))
      (hp.getElem?_ne (by omega) (by omega))

/-- The body of a pair is determined by where the pair starts. -/
theorem OccursIn.eq_of_start_eq (hp : p.OccursIn text) (hq : q.OccursIn text)
    (h : p.start = q.start) : p = q := by
  have hstop := hp.stop_eq hq (Nat.le_of_eq h) (h ▸ p.start_lt_stop)
  have htext : p.text = q.text := by
    refine List.IsPrefix.eq_of_length (List.prefix_of_prefix_length_le hp.2 (h ▸ hq.2) ?_) ?_ <;>
      simp only [length_text] <;> simp only [stop] at hstop <;> omega
  obtain ⟨s, b⟩ := p
  obtain ⟨s', b'⟩ := q
  simp only [Pair.text, Segment.text_pair, List.cons.injEq, true_and] at htext
  rw [show s = s' from h, List.append_cancel_right htext]

end Overlap

/-! ## A text behind another one -/

section Append
variable {lead rest : Text} {p : Pair}

theorem occursIn_shift : (p.shift lead.length).OccursIn (lead ++ rest) ↔ p.OccursIn rest := by
  simp [OccursIn, ← List.drop_drop]

/-- Where no pair crosses the border of two texts, the pairs that are leftmost in the second text
are leftmost in both together. -/
theorem isLeftmostIn_shift
    (hlead : ∀ q : Pair, q.OccursIn (lead ++ rest) → q.start < lead.length → q.stop ≤ lead.length) :
    (p.shift lead.length).IsLeftmostIn (lead ++ rest) ↔ p.IsLeftmostIn rest := by
  constructor
  · rintro ⟨hocc, hleft⟩
    refine ⟨occursIn_shift.mp hocc, fun q hq hlt => ?_⟩
    have := hleft (q.shift lead.length) (occursIn_shift.mpr hq) (by simpa using hlt)
    simpa using this
  · rintro ⟨hocc, hleft⟩
    refine ⟨occursIn_shift.mpr hocc, fun q hq hlt => ?_⟩
    rw [start_shift] at hlt ⊢
    by_cases hin : q.start < lead.length
    · have := hlead q hq hin
      omega
    · obtain ⟨q, rfl⟩ := exists_eq_shift (Nat.le_of_not_lt hin)
      have := hleft q (occursIn_shift.mp hq) (by simpa using hlt)
      simpa using this

end Append
end Pair

/-! ## The pairs that the cut finds -/

/-- The pairs among segments, the first of which has `n` characters before it. -/
def pairsFrom : (n : Nat) → List Segment → List Pair
  | _, [] => []
  | n, .plain _ :: rest => pairsFrom (n + 1) rest
  | n, .pair body :: rest => ⟨n, body⟩ :: pairsFrom (n + body.length + 4) rest

/-- The marker pairs that the cut of a text finds. -/
def pairs (text : Text) : List Pair := pairsFrom 0 (segments text)

theorem pairsFrom_add (n m : Nat) (segs : List Segment) :
    pairsFrom (n + m) segs = (pairsFrom m segs).map (Pair.shift n) := by
  induction segs generalizing m with
  | nil => rfl
  | cons seg segs ih =>
    cases seg with
    | plain c => rw [pairsFrom, pairsFrom, Nat.add_assoc, ih]
    | pair body =>
      rw [pairsFrom, pairsFrom, List.map_cons, ← ih, ← Nat.add_assoc, ← Nat.add_assoc]
      rfl

@[simp] theorem pairs_nil : pairs [] = [] := rfl

theorem pairs_cons {c : Char} {rest : Text} (h : pairBody? (c :: rest) = none) :
    pairs (c :: rest) = (pairs rest).map (Pair.shift 1) := by
  rw [pairs, segments_cons h, pairsFrom, Nat.zero_add]
  exact pairsFrom_add 1 0 _

theorem pairs_pair {body : Text} (hb : '}' ∉ body) (rest : Text) :
    pairs ((Segment.pair body).text ++ rest) =
      ⟨0, body⟩ :: (pairs rest).map (Pair.shift (body.length + 4)) := by
  rw [pairs, segments_pair hb, pairsFrom, Nat.zero_add]
  exact congrArg _ (pairsFrom_add (body.length + 4) 0 _)

/-- A character at the end of a text changes its pairs only if it is a closing brace. -/
theorem pairs_concat {c : Char} (hc : c ≠ '}') (text : Text) : pairs (text ++ [c]) = pairs text := by
  induction text using segmentsInduction with
  | nil => exact pairs_cons (pairBody?_concat_eq_none (s := []) hc rfl)
  | plain d rest h ih =>
    have hlast : pairBody? (d :: (rest ++ [c])) = none := pairBody?_concat_eq_none hc h
    rw [List.cons_append, pairs_cons hlast, pairs_cons h, ih]
  | pair body rest hb ih => rw [List.append_assoc, pairs_pair hb, pairs_pair hb, ih]

/-- The cut finds pairs one after the other. -/
theorem pairs_pairwise (text : Text) : (pairs text).Pairwise fun p q => p.stop ≤ q.start := by
  induction text using segmentsInduction with
  | nil => exact List.Pairwise.nil
  | plain c rest h ih =>
    rw [pairs_cons h, List.pairwise_map]
    exact ih.imp fun {p q} hpq => by simpa using hpq
  | pair body rest hb ih =>
    rw [pairs_pair hb, List.pairwise_cons, List.pairwise_map]
    refine ⟨fun q hq => ?_, ih.imp fun {p q} hpq => by simpa using hpq⟩
    obtain ⟨r, _, rfl⟩ := List.mem_map.mp hq
    simp only [Pair.stop, Pair.start_shift]
    omega

theorem mem_map_shift {n : Nat} {p : Pair} {ps : List Pair} :
    p.shift n ∈ ps.map (Pair.shift n) ↔ p ∈ ps :=
  List.mem_map_of_injective (Pair.shift_injective n)

/-- **The cut finds the leftmost pairs.**  A pair is found exactly when the text holds it and no
pair that starts before it reaches into it. -/
theorem mem_pairs_iff {text : Text} {p : Pair} : p ∈ pairs text ↔ p.IsLeftmostIn text := by
  induction text using segmentsInduction generalizing p with
  | nil =>
    have hno : ¬ p.IsLeftmostIn [] := fun h => by
      have := h.1.2
      simp [Pair.text, Segment.text_pair] at this
    simp [hno]
  | plain c rest h ih =>
    -- no pair starts before `rest` does
    have hno : ∀ q : Pair, q.OccursIn ([c] ++ rest) → ¬ q.start < 1 := fun q hq hlt => by
      have hocc := hq.2
      rw [show q.start = 0 by omega] at hocc
      have := pairBody?_eq_some_iff.mpr ⟨hq.1, hocc⟩
      rw [List.drop_zero, List.singleton_append, h] at this
      cases this
    rw [pairs_cons h]
    by_cases hp : p.start < 1
    · have hnot : ¬ p.IsLeftmostIn (c :: rest) := fun hl => hno p hl.1 hp
      simp only [hnot, iff_false]
      intro hmem
      obtain ⟨q, _, rfl⟩ := List.mem_map.mp hmem
      rw [Pair.start_shift] at hp
      omega
    · obtain ⟨q, rfl⟩ := Pair.exists_eq_shift (Nat.le_of_not_lt hp)
      rw [mem_map_shift, ih]
      have hshift : (q.shift [c].length).IsLeftmostIn ([c] ++ rest) ↔ q.IsLeftmostIn rest :=
        Pair.isLeftmostIn_shift fun r hr hlt => absurd hlt (hno r hr)
      exact hshift.symm
  | pair body rest hb ih =>
    have hfirst : (⟨0, body⟩ : Pair).OccursIn ((Segment.pair body).text ++ rest) :=
      ⟨hb, List.prefix_append ..⟩
    have hlen := Segment.length_text_pair body
    have hstop : (⟨0, body⟩ : Pair).stop = body.length + 4 := by
      simp [Pair.stop]
    rw [pairs_pair hb, List.mem_cons]
    by_cases hp : p.start < body.length + 4
    · constructor
      · rintro (rfl | hmem)
        · exact ⟨hfirst, fun q _ hlt => absurd hlt (Nat.not_lt_zero _)⟩
        · obtain ⟨q, _, rfl⟩ := List.mem_map.mp hmem
          rw [Pair.start_shift] at hp
          omega
      · rintro ⟨hocc, hleft⟩
        refine Or.inl (hocc.eq_of_start_eq hfirst ?_)
        apply Classical.byContradiction
        intro hne
        have := hleft _ hfirst (Nat.pos_of_ne_zero hne)
        omega
    · obtain ⟨q, rfl⟩ := Pair.exists_eq_shift (Nat.le_of_not_lt hp)
      rw [mem_map_shift, ih]
      have hshift : (q.shift (Segment.pair body).text.length).IsLeftmostIn
          ((Segment.pair body).text ++ rest) ↔ q.IsLeftmostIn rest :=
        Pair.isLeftmostIn_shift fun r hr hlt => by
          have := hfirst.stop_eq hr (Nat.zero_le _) (by omega)
          omega
      rw [hlen] at hshift
      rw [hshift]
      refine ⟨fun h => h.resolve_left fun he => ?_, Or.inr⟩
      have := congrArg Pair.start he
      rw [Pair.start_shift] at this
      simp only at this
      omega

section Found
variable {text : Text} {p q : Pair}

theorem occursIn_of_mem_pairs (h : p ∈ pairs text) : p.OccursIn text := (mem_pairs_iff.mp h).1

/-- Two pairs that the cut finds are one if they have a character in common. -/
theorem eq_of_mem_pairs (hp : p ∈ pairs text) (hq : q ∈ pairs text) (hpq : p.start < q.stop)
    (hqp : q.start < p.stop) : p = q := by
  have hp' := mem_pairs_iff.mp hp
  have hq' := mem_pairs_iff.mp hq
  rcases Nat.lt_trichotomy p.start q.start with h | h | h
  · have := hq'.2 p hp'.1 h
    omega
  · exact hp'.1.eq_of_start_eq hq'.1 h
  · have := hp'.2 q hq'.1 h
    omega

/-- **Every pair that a text holds ends one that the cut finds.** -/
theorem exists_mem_pairs_covers (hq : q.OccursIn text) :
    ∃ p ∈ pairs text, p.Covers q ∧ p.stop = q.stop := by
  induction hn : q.start using Nat.strongRecOn generalizing q with
  | ind n ih =>
    by_cases hleft : q.IsLeftmostIn text
    · exact ⟨q, mem_pairs_iff.mpr hleft, ⟨Nat.le_refl _, Nat.le_refl _⟩, rfl⟩
    · -- an earlier pair reaches into `q`, and so ends with it
      have hex : ∃ r : Pair, r.OccursIn text ∧ r.start < q.start ∧ q.start < r.stop := by
        apply Classical.byContradiction
        intro hno
        exact hleft ⟨hq, fun r hr hlt => Nat.le_of_not_lt fun hin => hno ⟨r, hr, hlt, hin⟩⟩
      obtain ⟨r, hr, hlt, hin⟩ := hex
      have hstop := hr.stop_eq hq (Nat.le_of_lt hlt) hin
      obtain ⟨p, hp, hcov, hpr⟩ := ih r.start (by omega) hr rfl
      exact ⟨p, hp, ⟨by have := hcov.1; omega, by omega⟩, by omega⟩

/-- The cut of a text may be made at each pair it finds: before the pair and after it, the two parts
are cut as if they stood alone. -/
theorem exists_segments_eq_of_mem_pairs (h : p ∈ pairs text) :
    ∃ before after, text = before ++ p.text ++ after ∧ before.length = p.start ∧
      segments text = segments before ++ .pair p.body :: segments after := by
  induction text using segmentsInduction generalizing p with
  | nil => cases h
  | plain c rest hc ih =>
    rw [pairs_cons hc] at h
    obtain ⟨q, hq, rfl⟩ := List.mem_map.mp h
    obtain ⟨before, after, htext, hlen, hseg⟩ := ih hq
    have hb : pairBody? (c :: before) = none := by
      have hall : pairBody? ((c :: before) ++ (q.text ++ after)) = none := by
        rw [List.cons_append, ← List.append_assoc, ← htext, hc]
      exact pairBody?_eq_none_of_append hall
    refine ⟨c :: before, after, by rw [htext]; rfl, ?_, ?_⟩
    · rw [List.length_cons, hlen, Pair.start_shift, Nat.add_comm]
    · rw [segments_cons hc, segments_cons hb, hseg]
      rfl
  | pair body rest hb ih =>
    rw [pairs_pair hb] at h
    rcases List.mem_cons.mp h with rfl | h
    · exact ⟨[], rest, rfl, rfl, segments_pair hb rest⟩
    · obtain ⟨q, hq, rfl⟩ := List.mem_map.mp h
      obtain ⟨before, after, htext, hlen, hseg⟩ := ih hq
      refine ⟨(Segment.pair body).text ++ before, after, ?_, ?_, ?_⟩
      · rw [htext]
        simp only [List.append_assoc, Pair.text_shift]
      · rw [List.length_append, Segment.length_text_pair, hlen, Pair.start_shift]
      · rw [segments_pair hb, segments_pair hb, hseg]
        rfl

end Found
end GraphLint.Expression
