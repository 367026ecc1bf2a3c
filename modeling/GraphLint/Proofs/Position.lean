import GraphLint.Position
import GraphLint.Proofs.Text.Lines
/-! # Positions in a text

A position is a pair of words, and an offset of a text is a number.  `Position.ofOffset` reads an
offset as a position: the line feeds before it count the lines, and what follows the last of them is
the column.  In an `Addressable` text no word wraps round, so positions are in the order of the
characters. -/
namespace GraphLint

/-- A text whose lines, and the characters of each of them, are counted by 32-bit words. -/
structure Text.Addressable (t : Text) : Prop where
  lines_lt : (Text.lines t).length < UInt32.size
  length_lt : ∀ line ∈ Text.lines t, line.length < UInt32.size

namespace Position

/-- The position of the place that has a number of characters before it. -/
def ofOffset (text : Text) (n : Nat) : Position :=
  .ofNat ((Text.lines (text.take n)).length - 1) (Text.lastLine (text.take n)).length

/-- One position comes before another one. -/
def Precedes (p q : Position) : Prop :=
  p.line < q.line ∨ p.line = q.line ∧ p.character < q.character

theorem eq_iff {p q : Position} : p = q ↔ p.line = q.line ∧ p.character = q.character := by
  rw [← Position.mk.injEq]

/-- A column of a line is the position of its offset. -/
theorem ofOffset_lineStart_add {text line : Text} {i c : Nat}
    (h : (Text.lines text)[i]? = some line) (hc : c ≤ line.length) :
    ofOffset text (Text.lineStart text i + c) = .ofNat i c := by
  obtain ⟨before, after, htext, hlen, hlines, _⟩ := Text.exists_eq_append_of_getElem?_lines h
  have htake : text.take (Text.lineStart text i + c) = before ++ line.take c := by
    rw [← hlen, htext, List.append_assoc, List.take_length_add_append,
      List.take_append_of_le_length hc]
  have hnl : '\n' ∉ line.take c := fun hmem =>
    Text.not_mem_of_mem_lines (List.mem_of_getElem? h) (List.mem_of_mem_take hmem)
  have hi : i < (Text.lines text).length := (List.getElem?_eq_some_iff.mp h).1
  unfold ofOffset Text.lastLine
  simp only [htake, hlines _ hnl, List.length_append, List.length_take, List.length_singleton,
    List.getLast_append_singleton, Nat.min_eq_left hc, Nat.min_eq_left (Nat.le_of_lt hi),
    Nat.add_sub_cancel]

theorem toNat_line_ofNat {i : Nat} (h : i < UInt32.size) (c : Nat) : (ofNat i c).line.toNat = i :=
  UInt32.toNat_ofNat_of_lt' h

theorem toNat_character_ofNat {c : Nat} (h : c < UInt32.size) (i : Nat) :
    (ofNat i c).character.toNat = c :=
  UInt32.toNat_ofNat_of_lt' h

theorem precedes_ofNat {i j c d : Nat} (hi : i < UInt32.size) (hj : j < UInt32.size)
    (hc : c < UInt32.size) (hd : d < UInt32.size) (h : i < j ∨ i = j ∧ c < d) :
    (ofNat i c).Precedes (ofNat j d) := by
  rcases h with h | ⟨rfl, h⟩
  · refine Or.inl (UInt32.lt_iff_toNat_lt.mpr ?_)
    rwa [toNat_line_ofNat hi, toNat_line_ofNat hj]
  · refine Or.inr ⟨rfl, UInt32.lt_iff_toNat_lt.mpr ?_⟩
    rwa [toNat_character_ofNat hc, toNat_character_ofNat hd]

theorem Precedes.ne {p q : Position} (h : p.Precedes q) : p ≠ q := by
  rintro rfl
  rcases h with h | ⟨_, h⟩
  · exact UInt32.lt_irrefl _ h
  · exact UInt32.lt_irrefl _ h

end Position

namespace Range

/-- A range lies on one line of a text, between its first and its last character. -/
def LiesIn (text : Text) (r : Range) : Prop :=
  r.start.line = r.stop.line ∧ r.start.character ≤ r.stop.character ∧
    ∃ line, (Text.lines text)[r.start.line.toNat]? = some line ∧
      r.stop.character.toNat ≤ line.length

/-- Two columns of a line are the ends of a range that lies in the text. -/
theorem liesIn_ofNat {text line : Text} (ht : text.Addressable) {i c d : Nat}
    (h : (Text.lines text)[i]? = some line) (hcd : c ≤ d) (hd : d ≤ line.length) :
    (⟨.ofNat i c, .ofNat i d⟩ : Range).LiesIn text := by
  have hi : i < UInt32.size := Nat.lt_trans (List.getElem?_eq_some_iff.mp h).1 ht.lines_lt
  have hd' : d < UInt32.size := Nat.lt_of_le_of_lt hd (ht.length_lt line (List.mem_of_getElem? h))
  refine ⟨rfl, UInt32.le_iff_toNat_le.mpr ?_, line, ?_, ?_⟩
  · rwa [Position.toNat_character_ofNat hd',
      Position.toNat_character_ofNat (Nat.lt_of_le_of_lt hcd hd')]
  · rwa [Position.toNat_line_ofNat hi]
  · rwa [Position.toNat_character_ofNat hd']

theorem width_le (line : Text) : width line ≤ line.length := by
  rw [width, Text.trimEndChar, List.length_reverse]
  exact Nat.le_trans (List.dropWhile_sublist _).length_le (Nat.le_of_eq List.length_reverse)

/-- The whole of a line lies in the text. -/
theorem liesIn_fullLine {text : Text} (ht : text.Addressable) {i : Nat}
    (hi : i < (Text.lines text).length) : (fullLine text (.ofNat i)).LiesIn text := by
  have hline := List.getElem?_eq_getElem hi
  have hword : (UInt32.ofNat i).toNat = i :=
    UInt32.toNat_ofNat_of_lt' (Nat.lt_trans hi ht.lines_lt)
  have heq : fullLine text (.ofNat i) =
      ⟨.ofNat i 0, .ofNat i (width (Text.lines text)[i])⟩ := by
    unfold fullLine
    rw [hword, hline]
    rfl
  rw [heq]
  exact liesIn_ofNat ht hline (Nat.zero_le _) (width_le _)

/-- The start of the first line lies in every text. -/
theorem liesIn_lineStart_zero (text : Text) : (lineStart 0).LiesIn text := by
  obtain ⟨line, rest, h⟩ := List.exists_cons_of_ne_nil (Text.lines_ne_nil text)
  exact ⟨rfl, UInt32.le_refl _, line, by rw [h]; rfl, Nat.zero_le _⟩

end Range
end GraphLint
