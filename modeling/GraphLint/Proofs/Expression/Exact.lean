import GraphLint.Proofs.Expression.Locator
/-! # The locator is exact

What the locator says about a text and what the text holds, without the scan in between.  Every span
is a marker pair of one line, and the characters of that line between the columns of the span are
the pair.  Spans are in the order of the text and do not overlap.  And wherever a line holds a pair,
also where another one reaches into it, a span covers the pair and ends where it ends.

As far as single lines go this is what `mem_pairs_iff` and `exists_mem_pairs_covers` say; what is
added here are the positions, which are words and exact in an addressable text (`toNat_spanOf`). -/
namespace GraphLint.Expression
variable {text line : Text} {i : Nat} {p : Pair}

/-- The characters of a line from one column up to another one. -/
def slice (line : Text) (start stop : Nat) : Text := (line.drop start).take (stop - start)

theorem slice_eq_text (h : p.OccursIn line) : slice line p.start p.stop = p.text := by
  obtain ⟨tail, htail⟩ := h.2
  have hlen : p.stop - p.start = p.text.length := by
    rw [Pair.length_text]
    unfold Pair.stop
    omega
  rw [slice, ← htail, hlen, List.take_left]

/-- What the locator says is what the text holds. -/
structure Exact (text : Text) : Prop where
  /-- A span is a marker pair without a line feed. -/
  pair : ∀ span ∈ spans text,
    ∃ w, span.text = openMarker ++ w ++ closeMarker ∧ '}' ∉ w ∧ '\n' ∉ w
  /-- It stands on one line, and from its first column to its last one the line holds its text. -/
  placed : ∀ span ∈ spans text, span.range.stop.line = span.range.start.line ∧
    ∃ line, (Text.lines text)[span.range.start.line.toNat]? = some line ∧
      slice line span.range.start.character.toNat span.range.stop.character.toNat = span.text
  /-- Spans are reported in the order of their starts. -/
  ordered : (spans text).Pairwise fun s t => s.range.start.Precedes t.range.start
  /-- Of two spans on a line the first one ends before the second one starts. -/
  disjoint : (spans text).Pairwise fun s t =>
    s.range.start.line = t.range.start.line → s.range.stop.character ≤ t.range.start.character
  /-- Every marker pair that a line holds ends a span of that line. -/
  complete : ∀ i line, (Text.lines text)[i]? = some line → ∀ before w after,
    line = before ++ (openMarker ++ w ++ closeMarker) ++ after → '}' ∉ w →
      ∃ span ∈ spans text, span.range.start.line.toNat = i ∧
        span.range.start.character.toNat ≤ before.length ∧
        span.range.stop.character.toNat = before.length + (openMarker ++ w ++ closeMarker).length

/-- A part of a line that is spelled like a pair is a pair of the line. -/
theorem occursIn_of_eq_append {before w after : Text} (hw : '}' ∉ w)
    (h : line = before ++ (openMarker ++ w ++ closeMarker) ++ after) :
    (⟨before.length, w⟩ : Pair).OccursIn line := by
  refine ⟨hw, after, ?_⟩
  rw [h, List.append_assoc, List.drop_left]
  rfl

/-- **The locator is exact** in every text whose lines and columns are counted by words. -/
theorem spans_exact (ht : text.Addressable) : Exact text where
  pair span h := by
    obtain ⟨i, p, hmem, rfl⟩ := exists_mem_linePairs h
    obtain ⟨line, hline, hp⟩ := mem_linePairs.mp hmem
    obtain ⟨hb, hpre⟩ := occursIn_of_mem_pairs hp
    have hnl : '\n' ∉ p.text := fun hn =>
      Text.not_mem_of_mem_lines (List.mem_of_getElem? hline) (List.mem_of_mem_drop (hpre.subset hn))
    exact ⟨p.body, rfl, hb, newline_not_mem_text.mp hnl⟩
  placed span h := by
    obtain ⟨i, p, hmem, rfl⟩ := exists_mem_linePairs h
    obtain ⟨line, hline, hp⟩ := mem_linePairs.mp hmem
    obtain ⟨hi, hstart, hstop⟩ := toNat_spanOf ht hmem
    rw [hi, hstart, hstop]
    exact ⟨rfl, line, hline, slice_eq_text (occursIn_of_mem_pairs hp)⟩
  ordered := by
    rw [spans_eq_map_linePairs, List.pairwise_map]
    exact (linePairs_starts_pairwise text).imp_of_mem fun ha hb h => precedes_spanOf ht ha hb h
  disjoint := by
    rw [spans_eq_map_linePairs, List.pairwise_map]
    refine (linePairs_pairwise text).imp_of_mem fun {a b} ha hb h heq => ?_
    obtain ⟨hai, _, hastop⟩ := toNat_spanOf ht ha
    obtain ⟨hbi, hbstart, _⟩ := toNat_spanOf ht hb
    have hline : a.1 = b.1 := by rw [← hai, ← hbi, heq]
    rw [UInt32.le_iff_toNat_le, hastop, hbstart]
    exact (h.resolve_left (by omega)).2
  complete i line hline before w after hsplit hw := by
    obtain ⟨p, hp, hcov, hstop⟩ := exists_mem_pairs_covers (occursIn_of_eq_append hw hsplit)
    have hmem : (i, p) ∈ linePairs text := mem_linePairs.mpr ⟨line, hline, hp⟩
    refine ⟨spanOf i p, spans_eq_map_linePairs text ▸ List.mem_map_of_mem hmem, ?_⟩
    obtain ⟨hi, hstart, hend⟩ := toNat_spanOf ht hmem
    rw [hi, hstart, hend, hstop]
    refine ⟨rfl, hcov.1, ?_⟩
    simp only [Pair.stop, openMarker, closeMarker, List.length_append, List.length_cons,
      List.length_nil]
    omega

/-- Two lines with a character of two octets, opening markers that overlap and repeat, a pair that a
line feed breaks, and a stray closing marker. -/
def overlappingPairs : Text :=
  "é \x7b\x7b\x7b \x7b\x7b a \x7d\x7d\x7d \x7b\x7b b\n\x7b\x7b\x7b\x7b\x7d\x7d \x7d\x7d".toList

theorem spans_exact_overlappingPairs : overlappingPairs.Addressable ∧
    (spans overlappingPairs).map (·.range) =
      [⟨.ofNat 0 2, .ofNat 0 13⟩, ⟨.ofNat 1 0, .ofNat 1 6⟩] ∧ Exact overlappingPairs :=
  have h : overlappingPairs.Addressable := ⟨by decide, by decide⟩
  ⟨h, by decide, spans_exact h⟩

end GraphLint.Expression
