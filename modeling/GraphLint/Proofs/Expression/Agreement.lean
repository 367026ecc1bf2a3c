import GraphLint.Proofs.Expression.Locator
import Mathlib.Data.Nat.Find
/-! # The locator and the neutraliser agree

The locator cuts each line on its own, and the neutraliser cuts the whole text, so a pair that runs
over several lines is there for one of them only.  `Agreement` says how the two lists of pairs
compare.  A pair on one line is in both.  Whatever the locator finds is the end of one pair that the
neutraliser replaces, and no two findings are the end of the same one.  And of a pair on several
lines the locator finds what follows the first opening marker on its last line, if there is one.

The reason is `Pair.OccursIn.stop_eq`: pairs that overlap end together, so it does not matter from
which side of a line feed a pair is looked for. -/
namespace GraphLint

/-- The first place in a text where a part occurs is after `n` characters. -/
def Text.IsFirstAt (part t : Text) (n : Nat) : Prop :=
  part <+: t.drop n ∧ ∀ m, m < n → ¬ part <+: t.drop m

namespace Expression

/-! ## What the neutraliser replaces -/

/-- A text, the first character of which has `n` characters before it, with a replacement in the
place of pairs. -/
def splice (replacement : Text) : (n : Nat) → List Pair → Text → Text
  | _, [], text => text
  | n, p :: ps, text =>
    text.take (p.start - n) ++ replacement ++ splice replacement p.stop ps (text.drop (p.stop - n))

theorem splice_shift (replacement : Text) (n k : Nat) (ps : List Pair) (text : Text) :
    splice replacement (k + n) (ps.map (Pair.shift k)) text = splice replacement n ps text := by
  induction ps generalizing n text with
  | nil => rfl
  | cons p ps ih =>
    rw [List.map_cons, splice, splice, Pair.start_shift, Pair.stop_shift, ih,
      Nat.add_sub_add_left, Nat.add_sub_add_left]

/-- **What is replaced are the pairs of the text**, and nothing else is changed. -/
theorem replacePairs_eq_splice (replacement text : Text) :
    replacePairs replacement text = splice replacement 0 (pairs text) text := by
  unfold replacePairs
  induction text using segmentsInduction with
  | nil => rfl
  | plain c rest h ih =>
    rw [segments_cons h, List.flatMap_cons, ih, pairs_cons h]
    cases pairs rest with
    | nil => rfl
    | cons p ps =>
      rw [List.map_cons, splice, splice, Pair.start_shift, Pair.stop_shift, splice_shift,
        Nat.sub_zero, Nat.sub_zero, Nat.sub_zero, Nat.sub_zero, Nat.add_comm 1, Nat.add_comm 1,
        List.take_succ_cons, List.drop_succ_cons]
      rfl
  | pair body rest hb ih =>
    have hstop : (⟨0, body⟩ : Pair).stop = body.length + 4 := by simp [Pair.stop]
    rw [segments_pair hb, List.flatMap_cons, ih, pairs_pair hb, splice, hstop, Nat.sub_zero,
      Nat.sub_zero, List.drop_left' (Segment.length_text_pair body)]
    exact congrArg _ (splice_shift replacement 0 (body.length + 4) (pairs rest) rest).symm

/-- Before a pair and after it a text is neutralised as if the two parts stood alone. -/
theorem exists_neutralise_eq_of_mem_pairs {text : Text} {p : Pair} (h : p ∈ pairs text) :
    ∃ before after, text = before ++ p.text ++ after ∧ before.length = p.start ∧
      neutralise text = neutralise before ++ placeholder ++ neutralise after := by
  obtain ⟨before, after, htext, hlen, hseg⟩ := exists_segments_eq_of_mem_pairs h
  refine ⟨before, after, htext, hlen, ?_⟩
  simp only [neutralise, replacePairs, hseg, List.flatMap_append, List.flatMap_cons,
    List.append_assoc]

/-! ## The end of a pair -/

section Ends
variable {text : Text} {p q : Pair}

theorem Pair.stop_eq_add_length (p : Pair) : p.stop = p.start + p.text.length := by
  rw [Pair.length_text]
  rfl

/-- A pair ends the pair that covers it. -/
theorem stop_eq_of_covers (hp : p.OccursIn text) (hq : q.OccursIn text) (h : p.Covers q) :
    p.stop = q.stop :=
  hp.stop_eq hq h.1 (Nat.lt_of_lt_of_le q.start_lt_stop h.2)

/-- The characters of a pair that ends another one are the last ones of that. -/
theorem exists_text_eq_append (hp : p.OccursIn text) (hq : q.OccursIn text) (h : p.Covers q) :
    ∃ u, p.text = u ++ q.text ∧ q.start = p.start + u.length := by
  have hstop := stop_eq_of_covers hp hq h
  rw [Pair.stop_eq_add_length, Pair.stop_eq_add_length] at hstop
  obtain ⟨k, hk⟩ := Nat.exists_eq_add_of_le h.1
  have hkle : k ≤ p.text.length := by omega
  obtain ⟨t, ht⟩ := hp.2
  obtain ⟨s, hs⟩ := hq.2
  rw [hk, ← List.drop_drop, ← ht, List.drop_append_of_le_length hkle] at hs
  have heq : q.text = p.text.drop k := List.append_inj_left hs (by rw [List.length_drop]; omega)
  refine ⟨p.text.take k, ?_, ?_⟩
  · rw [heq, List.take_append_drop]
  · rw [List.length_take, Nat.min_eq_left hkle, hk]

/-- From each opening marker in a pair on there is a pair, which ends with it. -/
theorem exists_occursIn_of_text_eq (hp : p.OccursIn text) {u rest : Text}
    (h : p.text = u ++ (openMarker ++ rest)) :
    ∃ body, rest = body ++ closeMarker ∧ (⟨p.start + u.length, body⟩ : Pair).OccursIn text := by
  have hno : '}' ∉ openMarker ++ p.body := by simpa [openMarker] using hp.1
  obtain ⟨body, hrest, hbody⟩ := exists_eq_append_closeMarker (h.trans (List.append_assoc ..).symm)
  refine ⟨body, hrest, fun hmem => hno (hbody ▸ List.mem_append_right _ hmem), ?_⟩
  obtain ⟨t, ht⟩ := hp.2
  refine ⟨t, ?_⟩
  rw [← List.drop_drop, ← ht, h, List.append_assoc, List.drop_left, hrest]
  simp [Pair.text, Segment.text]

/-! ## A pair on several lines -/

/-- The number of characters before the last line of a pair. -/
def Pair.lastLineStart (p : Pair) : Nat := p.stop - (Text.lastLine p.text).length

theorem Pair.exists_text_eq_append_lastLine (hn : '\n' ∈ p.body) :
    ∃ s, p.text = s ++ '\n' :: Text.lastLine p.text ∧
      p.lastLineStart = p.start + s.length + 1 := by
  have hmem : '\n' ∈ p.text := by
    apply Classical.byContradiction
    intro hno
    exact newline_not_mem_text.mp hno hn
  obtain ⟨s, hs⟩ := Text.exists_eq_append_lastLine hmem
  have hlen := congrArg List.length hs
  rw [List.length_append, List.length_cons] at hlen
  refine ⟨s, hs, ?_⟩
  rw [Pair.lastLineStart, Pair.stop_eq_add_length]
  omega

/-- A pair that ends one on several lines, and that holds no line feed itself, starts with an
opening marker of the last line. -/
theorem exists_start_eq_lastLineStart_add (hp : p.OccursIn text) (hn : '\n' ∈ p.body)
    (hq : q.OccursIn text) (hqn : '\n' ∉ q.body) (h : p.Covers q) :
    ∃ n, q.start = p.lastLineStart + n ∧ openMarker <+: (Text.lastLine p.text).drop n := by
  obtain ⟨s, hs, hstart⟩ := Pair.exists_text_eq_append_lastLine hn
  obtain ⟨u, hu, hqs⟩ := exists_text_eq_append hp hq h
  have hqtext : '\n' ∉ q.text := newline_not_mem_text.mpr hqn
  -- the last line feed of `p` stands before `q`
  have hsplit : ∃ x, u = s ++ '\n' :: x ∧ Text.lastLine p.text = x ++ q.text := by
    rcases List.append_eq_append_iff.mp (hs.symm.trans hu) with ⟨x, hx, hlast⟩ | ⟨x, hx, hlast⟩
    · cases x with
      | nil => exact absurd (by rw [← List.nil_append q.text, ← hlast]; simp) hqtext
      | cons c x =>
        obtain ⟨rfl, htail⟩ := List.cons.inj hlast
        exact ⟨x, hx, htail⟩
    · exact absurd (by rw [hlast]; simp) hqtext
  obtain ⟨x, rfl, hlast⟩ := hsplit
  refine ⟨x.length, ?_, ?_⟩
  · rw [hqs, hstart, List.length_append, List.length_cons]
    omega
  · rw [hlast, List.drop_left]
    exact ⟨q.body ++ closeMarker, by simp [Pair.text, Segment.text]⟩

/-- From each opening marker on the last line of a pair on, the locator finds a pair, unless it
finds one that starts before it. -/
theorem exists_mem_located_of_openMarker (hp : p ∈ pairs text) (hn : '\n' ∈ p.body) {n : Nat}
    (h : openMarker <+: (Text.lastLine p.text).drop n) :
    ∃ q ∈ located text, p.Covers q ∧ q.start ≤ p.lastLineStart + n := by
  obtain ⟨s, hs, hstart⟩ := Pair.exists_text_eq_append_lastLine hn
  obtain ⟨rest, hrest⟩ := h
  have hnle : n ≤ (Text.lastLine p.text).length := by
    apply Classical.byContradiction
    intro hlt
    rw [List.drop_eq_nil_of_le (by omega)] at hrest
    cases hrest
  have htext : p.text = (s ++ '\n' :: (Text.lastLine p.text).take n) ++ (openMarker ++ rest) := by
    rw [hrest, List.append_assoc, List.cons_append, List.take_append_drop, ← hs]
  have hocc := occursIn_of_mem_pairs hp
  obtain ⟨body, rfl, hr⟩ := exists_occursIn_of_text_eq hocc htext
  have hbody : '\n' ∉ body := fun hmem => Text.not_mem_lastLine p.text <|
    List.mem_of_mem_drop <| hrest ▸ List.mem_append_right _ (List.mem_append_left _ hmem)
  obtain ⟨q, hq, hcov, hstop⟩ := exists_mem_located_covers hr hbody
  have hqocc := (occursIn_of_mem_located hq).1
  have hle : q.start ≤ p.lastLineStart + n := by
    have := hcov.1
    simp only [List.length_append, List.length_cons, List.length_take, Nat.min_eq_left hnle] at this
    omega
  have hend : q.stop = p.stop := by
    have hlen := congrArg List.length htext
    simp only [List.length_append, openMarker, closeMarker, List.length_cons,
      List.length_nil] at hlen
    rw [hstop, Pair.stop_eq_add_length p]
    simp only [Pair.stop, List.length_append, List.length_cons]
    omega
  refine ⟨q, hq, ⟨?_, Nat.le_of_eq hend⟩, hle⟩
  -- otherwise `q` would be further left than `p`, which the cut found
  apply Classical.byContradiction
  intro hlt
  have := (mem_pairs_iff.mp hp).2 q hqocc (Nat.lt_of_not_le hlt)
  have := p.start_lt_stop
  omega

theorem isInfix_iff_exists_isFirstAt {part t : Text} :
    part <:+: t ↔ ∃ n, Text.IsFirstAt part t n := by
  constructor
  · rintro ⟨s, u, h⟩
    have hex : ∃ n, part <+: t.drop n :=
      ⟨s.length, by rw [← h, List.append_assoc, List.drop_left]; exact List.prefix_append ..⟩
    exact ⟨Nat.find hex, Nat.find_spec hex, fun m hm => Nat.find_min hex hm⟩
  · rintro ⟨n, h, _⟩
    exact h.isInfix.trans (List.drop_suffix n t).isInfix

/-- What the locator finds in a pair on several lines starts with the first opening marker of the
last line. -/
theorem exists_isFirstAt_of_covers (hp : p ∈ pairs text) (hn : '\n' ∈ p.body)
    (hq : q ∈ located text) (h : p.Covers q) :
    ∃ n, q.start = p.lastLineStart + n ∧ Text.IsFirstAt openMarker (Text.lastLine p.text) n := by
  obtain ⟨hqocc, hqn⟩ := occursIn_of_mem_located hq
  have hocc := occursIn_of_mem_pairs hp
  obtain ⟨n, hstart, hopen⟩ := exists_start_eq_lastLineStart_add hocc hn hqocc hqn h
  refine ⟨n, hstart, hopen, fun m hm hfirst => ?_⟩
  obtain ⟨r, hr, hcov, hle⟩ := exists_mem_located_of_openMarker hp hn hfirst
  have hend := stop_eq_of_covers hocc (occursIn_of_mem_located hr).1 hcov
  obtain rfl := eq_of_mem_located hq hr ((stop_eq_of_covers hocc hqocc h).symm.trans hend)
  omega

/-- The pair of the text starts with the first of the two opening markers, and what the locator
finds with the last one. -/
example :
    let first := openMarker ++ " a\n".toList
    let second := openMarker ++ " b ".toList
    pairs (first ++ second ++ closeMarker) = [⟨0, " a\n".toList ++ second⟩] ∧
      located (first ++ second ++ closeMarker) = [⟨first.length, " b ".toList⟩] := by
  decide

end Ends

/-! ## The agreement -/

/-- How the locator, which cuts lines, and the neutraliser, which cuts the whole text, agree. -/
structure Agreement (text : Text) : Prop where
  /-- What the neutraliser replaces are pairs of the text, one after the other. -/
  pairs_occur : ∀ p ∈ pairs text, p.OccursIn text
  pairs_ordered : (pairs text).Pairwise fun p q => p.stop ≤ q.start
  /-- It replaces each of them and changes nothing else. -/
  replaced : neutralise text = splice placeholder 0 (pairs text) text
  /-- What the locator finds are pairs of the text without a line feed. -/
  located_occur : ∀ q ∈ located text, q.OccursIn text ∧ '\n' ∉ q.body
  /-- It reports each of them, with its place as lines and columns. -/
  reported : spans text = (located text).map (spanAt text)
  /-- A replaced pair on one line is found, with the same text and at the same place. -/
  kept : ∀ p ∈ pairs text, '\n' ∉ p.body → p ∈ located text
  /-- Whatever is found lies in one replaced pair, and in one only. -/
  covered : ∀ q ∈ located text, ∃! p, p ∈ pairs text ∧ p.Covers q
  /-- What is found ends where the replaced pair ends. -/
  ends : ∀ q ∈ located text, ∀ p ∈ pairs text, p.Covers q → q.stop = p.stop
  /-- No two findings lie in one replaced pair. -/
  unshared : (located text).Pairwise fun q r => ∀ p ∈ pairs text, ¬ (p.Covers q ∧ p.Covers r)
  /-- In a replaced pair on several lines something is found exactly if the last line of the pair
  holds an opening marker. -/
  multiline : ∀ p ∈ pairs text, '\n' ∈ p.body →
    ((∃ q ∈ located text, p.Covers q) ↔ openMarker <:+: Text.lastLine p.text)
  /-- What is found there starts with the first opening marker of that line. -/
  multiline_start : ∀ p ∈ pairs text, '\n' ∈ p.body → ∀ q ∈ located text, p.Covers q →
    ∃ n, q.start = p.lastLineStart + n ∧ Text.IsFirstAt openMarker (Text.lastLine p.text) n
  /-- So nothing that is found is left in the neutralised text: it stands in a part of the text for
  which the neutralised text has the placeholder. -/
  neutralised : ∀ q ∈ located text, ∃ before part after : Text,
    text = before ++ part ++ after ∧ before.length ≤ q.start ∧
      q.stop ≤ before.length + part.length ∧
      neutralise text = neutralise before ++ placeholder ++ neutralise after

/-- **The locator and the neutraliser agree** on what an expression is, in every text. -/
theorem locator_agreement (text : Text) : Agreement text where
  pairs_occur _ := occursIn_of_mem_pairs
  pairs_ordered := pairs_pairwise text
  replaced := replacePairs_eq_splice placeholder text
  located_occur _ := occursIn_of_mem_located
  reported := spans_eq_map_located text
  kept p hp hn := by
    obtain ⟨hocc, hleft⟩ := mem_pairs_iff.mp hp
    obtain ⟨q, hq, hcov, hstop⟩ := exists_mem_located_covers hocc hn
    have hqocc := (occursIn_of_mem_located hq).1
    -- `p` is leftmost in the whole text, so what the locator finds cannot start before it
    have hstart : q.start = p.start := by
      apply Classical.byContradiction
      intro hne
      have := hleft q hqocc (Nat.lt_of_le_of_ne hcov.1 hne)
      have := p.start_lt_stop
      omega
    exact hqocc.eq_of_start_eq hocc hstart ▸ hq
  covered q hq := by
    obtain ⟨p, hp, hcov, _⟩ := exists_mem_pairs_covers (occursIn_of_mem_located hq).1
    refine ⟨p, ⟨hp, hcov⟩, fun r hr => ?_⟩
    have hlt := q.start_lt_stop
    exact eq_of_mem_pairs hr.1 hp
      (Nat.lt_of_le_of_lt hr.2.1 (Nat.lt_of_lt_of_le hlt hcov.2))
      (Nat.lt_of_le_of_lt hcov.1 (Nat.lt_of_lt_of_le hlt hr.2.2))
  ends q hq p hp hcov :=
    (stop_eq_of_covers (occursIn_of_mem_pairs hp) (occursIn_of_mem_located hq).1 hcov).symm
  unshared := by
    refine (located_pairwise text).imp_of_mem fun {q r} hq hr hqr p hp hcov => ?_
    have hocc := occursIn_of_mem_pairs hp
    have hqstop := stop_eq_of_covers hocc (occursIn_of_mem_located hq).1 hcov.1
    have hrstop := stop_eq_of_covers hocc (occursIn_of_mem_located hr).1 hcov.2
    have := r.start_lt_stop
    omega
  multiline p hp hn := by
    rw [isInfix_iff_exists_isFirstAt]
    constructor
    · rintro ⟨q, hq, hcov⟩
      obtain ⟨n, _, hfirst⟩ := exists_isFirstAt_of_covers hp hn hq hcov
      exact ⟨n, hfirst⟩
    · rintro ⟨n, hopen, _⟩
      obtain ⟨q, hq, hcov, _⟩ := exists_mem_located_of_openMarker hp hn hopen
      exact ⟨q, hq, hcov⟩
  multiline_start p hp hn q hq hcov := exists_isFirstAt_of_covers hp hn hq hcov
  neutralised q hq := by
    obtain ⟨p, hp, hcov, _⟩ := exists_mem_pairs_covers (occursIn_of_mem_located hq).1
    obtain ⟨before, after, htext, hlen, hneut⟩ := exists_neutralise_eq_of_mem_pairs hp
    have hle := hcov.1
    have hstop := hcov.2
    rw [Pair.stop_eq_add_length p] at hstop
    exact ⟨before, p.text, after, htext, by omega, by omega, hneut⟩

end Expression
end GraphLint
