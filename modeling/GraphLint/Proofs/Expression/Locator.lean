import GraphLint.Proofs.Expression.Pairs
import GraphLint.Proofs.Position
import GraphLint.Proofs.Text.Search
/-! # Where the locator finds expressions

The locator cuts every line on its own.  `linePairs` lists the pairs it finds with the numbers of
their lines, and `located` lists them at their places in the whole text; both lists are in the order
of the text and their pairs do not overlap, and both give the spans that the locator reports
(`spans_eq_map_linePairs`, `spans_eq_map_located`).  A pair of a line is a pair of the text without
a line feed, and the other way round (`occursIn_line_iff`), so every pair without a line feed ends
one that the locator finds (`exists_mem_located_covers`). -/
namespace GraphLint.Expression

variable {text line : Text} {i : Nat} {p q : Pair}

/-- The marker pairs of the lines of a text, each with the number of its line. -/
def linePairs (text : Text) : List (Nat × Pair) :=
  (Text.lines text).zipIdx.flatMap fun l => (pairs l.1).map (l.2, ·)

/-- The span that reports a pair of a line. -/
def spanOf (i : Nat) (p : Pair) : Span := ⟨⟨.ofNat i p.start, .ofNat i p.stop⟩, p.body⟩

/-- The marker pairs of the lines of a text, at their places in the whole text. -/
def located (text : Text) : List Pair :=
  (linePairs text).map fun l => l.2.shift (Text.lineStart text l.1)

/-- The span that reports a pair of a text. -/
def spanAt (text : Text) (p : Pair) : Span :=
  ⟨⟨.ofOffset text p.start, .ofOffset text p.stop⟩, p.body⟩

/-! ## Pairs with the numbers of their lines -/

theorem mem_linePairs :
    (i, p) ∈ linePairs text ↔ ∃ line, (Text.lines text)[i]? = some line ∧ p ∈ pairs line := by
  simp only [linePairs, List.mem_flatMap, List.mem_map, Prod.mk.injEq, Prod.exists,
    List.mem_zipIdx_iff_getElem?]
  constructor
  · rintro ⟨line, j, hj, q, hq, rfl, rfl⟩
    exact ⟨line, hj, hq⟩
  · rintro ⟨line, hi, hp⟩
    exact ⟨line, i, hi, p, hp, rfl, rfl⟩

theorem spansFrom_eq_map (i column : Nat) (segs : List Segment) :
    spansFrom i column segs = (pairsFrom column segs).map (spanOf i) := by
  induction segs generalizing column with
  | nil => rfl
  | cons seg segs ih =>
    cases seg with
    | plain c => rw [spansFrom, pairsFrom, ih]
    | pair body => rw [spansFrom, pairsFrom, List.map_cons, ih]; rfl

theorem linesSpans_eq_flatMap (n : Nat) (ls : List Text) :
    linesSpans n ls = (ls.zipIdx n).flatMap fun l => (pairs l.1).map (spanOf l.2) := by
  induction ls generalizing n with
  | nil => rfl
  | cons line rest ih =>
    rw [linesSpans, ih, List.zipIdx_cons, List.flatMap_cons, lineSpans, spansFrom_eq_map]
    rfl

/-- The locator reports the pairs of the lines. -/
theorem spans_eq_map_linePairs (text : Text) :
    spans text = (linePairs text).map fun l => spanOf l.1 l.2 := by
  rw [spans, linesSpans_eq_flatMap, linePairs, List.map_flatMap]
  simp only [List.map_map]
  rfl

/-- A span is a pair of a line. -/
theorem exists_mem_linePairs {span : Span} (h : span ∈ spans text) :
    ∃ i p, (i, p) ∈ linePairs text ∧ span = spanOf i p := by
  rw [spans_eq_map_linePairs] at h
  obtain ⟨⟨i, p⟩, hmem, rfl⟩ := List.mem_map.mp h
  exact ⟨i, p, hmem, rfl⟩

/-- The pairs are listed by lines, and on a line one after the other. -/
theorem linePairs_pairwise (text : Text) :
    (linePairs text).Pairwise fun a b => a.1 < b.1 ∨ a.1 = b.1 ∧ a.2.stop ≤ b.2.start := by
  unfold linePairs
  rw [List.pairwise_flatMap]
  constructor
  · intro l _
    rw [List.pairwise_map]
    exact (pairs_pairwise l.1).imp fun h => Or.inr ⟨rfl, h⟩
  · have hnum : (Text.lines text).zipIdx.Pairwise fun a b => a.2 < b.2 := by
      have := List.pairwise_lt_range' (s := 0) (n := (Text.lines text).length)
      rw [← List.zipIdx_map_snd, List.pairwise_map] at this
      exact this
    refine hnum.imp fun hlt a ha b hb => ?_
    obtain ⟨_, _, rfl⟩ := List.mem_map.mp ha
    obtain ⟨_, _, rfl⟩ := List.mem_map.mp hb
    exact Or.inl hlt

/-! ## Spans in an addressable text -/

theorem stop_le_length (h : p.OccursIn text) : p.stop ≤ text.length := by
  have hlen := h.2.length_le
  rw [Pair.length_text, List.length_drop] at hlen
  unfold Pair.stop
  omega

theorem stop_le_length_of_mem_linePairs (h : (i, p) ∈ linePairs text) :
    ∃ line, (Text.lines text)[i]? = some line ∧ p.stop ≤ line.length := by
  obtain ⟨line, hline, hp⟩ := mem_linePairs.mp h
  exact ⟨line, hline, stop_le_length (occursIn_of_mem_pairs hp)⟩

/-- In an addressable text the words of a span are the numbers of its pair. -/
theorem toNat_spanOf (ht : text.Addressable) (h : (i, p) ∈ linePairs text) :
    (spanOf i p).range.start.line.toNat = i ∧ (spanOf i p).range.start.character.toNat = p.start ∧
      (spanOf i p).range.stop.character.toNat = p.stop := by
  obtain ⟨line, hline, hstop⟩ := stop_le_length_of_mem_linePairs h
  have hi : i < UInt32.size := Nat.lt_trans (List.getElem?_eq_some_iff.mp hline).1 ht.lines_lt
  have hlen := ht.length_lt line (List.mem_of_getElem? hline)
  have hstart := p.start_lt_stop
  exact ⟨Position.toNat_line_ofNat hi _, Position.toNat_character_ofNat (by omega) _,
    Position.toNat_character_ofNat (by omega) _⟩

theorem liesIn_spanOf (ht : text.Addressable) (h : (i, p) ∈ linePairs text) :
    (spanOf i p).range.LiesIn text := by
  obtain ⟨line, hline, hstop⟩ := stop_le_length_of_mem_linePairs h
  exact Range.liesIn_ofNat ht hline (Nat.le_of_lt p.start_lt_stop) hstop

/-- The starts of the pairs are in strictly increasing order. -/
theorem linePairs_starts_pairwise (text : Text) :
    (linePairs text).Pairwise fun a b => a.1 < b.1 ∨ a.1 = b.1 ∧ a.2.start < b.2.start :=
  (linePairs_pairwise text).imp fun {a _} h =>
    h.imp_right fun ⟨heq, hle⟩ => ⟨heq, Nat.lt_of_lt_of_le a.2.start_lt_stop hle⟩

/-- In an addressable text the positions of the spans are in strictly increasing order. -/
theorem precedes_spanOf (ht : text.Addressable) {a b : Nat × Pair} (ha : a ∈ linePairs text)
    (hb : b ∈ linePairs text) (h : a.1 < b.1 ∨ a.1 = b.1 ∧ a.2.start < b.2.start) :
    (spanOf a.1 a.2).range.start.Precedes (spanOf b.1 b.2).range.start := by
  obtain ⟨line, hline, hstop⟩ := stop_le_length_of_mem_linePairs ha
  obtain ⟨line', hline', hstop'⟩ := stop_le_length_of_mem_linePairs hb
  have hlen := ht.length_lt line (List.mem_of_getElem? hline)
  have hlen' := ht.length_lt line' (List.mem_of_getElem? hline')
  have hi := (List.getElem?_eq_some_iff.mp hline).1
  have hj := (List.getElem?_eq_some_iff.mp hline').1
  have := ht.lines_lt
  have := a.2.start_lt_stop
  have := b.2.start_lt_stop
  exact Position.precedes_ofNat (by omega) (by omega) (by omega) (by omega) h

/-! ## Pairs of a line and pairs of the text -/

theorem newline_not_mem_text : '\n' ∉ p.text ↔ '\n' ∉ p.body := by
  simp [Pair.text, Segment.text_pair, closeMarker]

/-- A text without a line feed that a line and what follows it go on with is part of the line. -/
private theorem isPrefix_of_isPrefix_append {s t after : Text} (hs : '\n' ∉ s)
    (hafter : after = [] ∨ ∃ rest, after = '\n' :: rest) (h : s <+: t ++ after) : s <+: t := by
  rcases hafter with rfl | ⟨rest, rfl⟩
  · rwa [List.append_nil] at h
  · exact Text.isPrefix_of_append_cons hs h

/-- **The pairs of a line are the pairs of the text that start on it and hold no line feed.** -/
theorem occursIn_line_iff (h : (Text.lines text)[i]? = some line) (hp : p.start ≤ line.length) :
    p.OccursIn line ↔ (p.shift (Text.lineStart text i)).OccursIn text ∧ '\n' ∉ p.body := by
  obtain ⟨before, after, htext, hlen, _, hafter⟩ := Text.exists_eq_append_of_getElem?_lines h
  have hnl := Text.not_mem_of_mem_lines (List.mem_of_getElem? h)
  have hshift : (p.shift (Text.lineStart text i)).OccursIn text ↔ p.OccursIn (line ++ after) := by
    rw [← hlen, htext, List.append_assoc, Pair.occursIn_shift]
  rw [hshift, Pair.OccursIn, Pair.OccursIn, List.drop_append_of_le_length hp]
  constructor
  · rintro ⟨hb, hpre⟩
    refine ⟨⟨hb, hpre.trans (List.prefix_append ..)⟩, newline_not_mem_text.mp fun hmem => ?_⟩
    exact hnl (List.mem_of_mem_drop (hpre.subset hmem))
  · rintro ⟨⟨hb, hpre⟩, hn⟩
    exact ⟨hb, isPrefix_of_isPrefix_append (newline_not_mem_text.mpr hn) hafter hpre⟩

theorem mem_located : q ∈ located text ↔ ∃ i line p, (Text.lines text)[i]? = some line ∧
    p ∈ pairs line ∧ q = p.shift (Text.lineStart text i) := by
  constructor
  · intro h
    obtain ⟨⟨i, p⟩, hmem, rfl⟩ := List.mem_map.mp h
    obtain ⟨line, hline, hp⟩ := mem_linePairs.mp hmem
    exact ⟨i, line, p, hline, hp, rfl⟩
  · rintro ⟨i, line, p, hline, hp, rfl⟩
    exact List.mem_map.mpr ⟨(i, p), mem_linePairs.mpr ⟨line, hline, hp⟩, rfl⟩

theorem occursIn_of_mem_located (h : q ∈ located text) : q.OccursIn text ∧ '\n' ∉ q.body := by
  obtain ⟨i, line, p, hline, hp, rfl⟩ := mem_located.mp h
  have hocc := occursIn_of_mem_pairs hp
  have hle := Nat.le_trans (Nat.le_of_lt p.start_lt_stop) (stop_le_length hocc)
  exact (occursIn_line_iff hline hle).mp hocc

/-- The locator reports the pairs of the lines at their places in the whole text. -/
theorem spans_eq_map_located (text : Text) : spans text = (located text).map (spanAt text) := by
  rw [spans_eq_map_linePairs, located, List.map_map]
  refine List.map_congr_left fun ⟨i, p⟩ hmem => ?_
  obtain ⟨line, hline, hp⟩ := mem_linePairs.mp hmem
  have hstop := stop_le_length (occursIn_of_mem_pairs hp)
  have hstart := Nat.le_trans (Nat.le_of_lt p.start_lt_stop) hstop
  simp only [Function.comp_apply, spanOf, spanAt, Pair.start_shift, Pair.stop_shift,
    Pair.body_shift, Position.ofOffset_lineStart_add hline hstart,
    Position.ofOffset_lineStart_add hline hstop]

/-- The locator finds pairs one after the other. -/
theorem located_pairwise (text : Text) :
    (located text).Pairwise fun p q => p.stop ≤ q.start := by
  unfold located
  rw [List.pairwise_map]
  refine (linePairs_pairwise text).imp_of_mem fun {a b} ha _ hab => ?_
  rw [Pair.stop_shift, Pair.start_shift]
  rcases hab with hlt | ⟨heq, hle⟩
  · obtain ⟨line, hline, hp⟩ := mem_linePairs.mp ha
    have hstop := stop_le_length (occursIn_of_mem_pairs hp)
    have hstart := Text.lineStart_add_length_lt hline hlt
    omega
  · rw [heq]
    omega

/-- **Every pair without a line feed ends one that the locator finds.** -/
theorem exists_mem_located_covers (hp : p.OccursIn text) (hn : '\n' ∉ p.body) :
    ∃ q ∈ located text, q.Covers p ∧ q.stop = p.stop := by
  have hle := Nat.le_trans (Nat.le_of_lt p.start_lt_stop) (stop_le_length hp)
  obtain ⟨i, line, c, hline, hc, hstart⟩ := Text.exists_line_of_le hle
  obtain ⟨r, rfl⟩ : ∃ r : Pair, p = r.shift (Text.lineStart text i) :=
    Pair.exists_eq_shift (by omega)
  have hr : r.start ≤ line.length := by
    rw [Pair.start_shift] at hstart
    omega
  obtain ⟨q, hq, hcov, hstop⟩ :=
    exists_mem_pairs_covers ((occursIn_line_iff hline hr).mpr ⟨hp, hn⟩)
  -- the pair that the cut of this line finds, at its place in the text
  refine ⟨q.shift (Text.lineStart text i), mem_located.mpr ⟨i, line, q, hline, hq, rfl⟩,
    ⟨?_, ?_⟩, ?_⟩
  · simpa using hcov.1
  · simpa using hcov.2
  · simpa using hstop

/-- Two pairs that the locator finds are one if they end at the same character. -/
theorem eq_of_mem_located (hp : p ∈ located text) (hq : q ∈ located text)
    (h : p.stop = q.stop) : p = q := by
  obtain ⟨i, hi, rfl⟩ := List.getElem_of_mem hp
  obtain ⟨j, hj, rfl⟩ := List.getElem_of_mem hq
  have hpair := List.pairwise_iff_getElem.mp (located_pairwise text)
  rcases Nat.lt_trichotomy i j with hlt | rfl | hlt
  · have hle := hpair i j hi hj hlt
    have hne := (located text)[j].start_lt_stop
    omega
  · rfl
  · have hle := hpair j i hj hi hlt
    have hne := (located text)[i].start_lt_stop
    omega

end GraphLint.Expression
