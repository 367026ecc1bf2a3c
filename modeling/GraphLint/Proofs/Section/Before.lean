import GraphLint.Completion
import Mathlib.Data.List.TakeWhile
/-! # What stands before a cursor

Of a text, the section of a cursor takes the lines above its own, the text before it on its line, and
how far that line is indented (`contextAt_eq_contextBefore`).  Where two texts agree in these
(`Text.AgreesBefore`) a cursor has the same context in both, and the same entries are offered there,
whatever follows it.  The indentation has to be asked for only as long as the cursor stands within
it: of a line that has begun, the text before the cursor shows it
(`Text.AgreesBefore.of_begun`). -/
namespace GraphLint

namespace Text

/-- A line has begun in a text: not only spaces are there. -/
def HasBegun (before : Text) : Prop := ∃ c ∈ before, c ≠ ' '

theorem indentation_append {before : Text} (h : HasBegun before) (rest : Text) :
    indentation (before ++ rest) = indentation before := by
  obtain ⟨c, hmem, hc⟩ := h
  have hshort : (before.takeWhile (· == ' ')).length ≠ before.length := by
    intro heq
    have hall := (List.takeWhile_prefix (· == ' ')).eq_of_length heq
    exact hc (by simpa using List.takeWhile_eq_self_iff.mp hall c hmem)
  rw [indentation, List.takeWhile_append, if_neg hshort]
  rfl

/-- Two texts agree before a position. -/
structure AgreesBefore (text other : Text) (p : Position) : Prop where
  /-- The lines above are the same. -/
  above : (lines text).take p.line.toNat = (lines other).take p.line.toNat
  /-- In both the position is on a line.  Up to it the two lines are the same, as a whole if they are
  shorter, and they are indented equally far. -/
  line : ∃ l k, (lines text)[p.line.toNat]? = some l ∧ (lines other)[p.line.toNat]? = some k ∧
    l.take p.character.toNat = k.take p.character.toNat ∧ indentation l = indentation k

/-- Where the line has begun, texts agree that are the same up to there. -/
theorem AgreesBefore.of_begun {text other l k : Text} {p : Position}
    (habove : (lines text).take p.line.toNat = (lines other).take p.line.toNat)
    (hl : (lines text)[p.line.toNat]? = some l) (hk : (lines other)[p.line.toNat]? = some k)
    (hbefore : l.take p.character.toNat = k.take p.character.toNat)
    (hbegun : HasBegun (l.take p.character.toNat)) : AgreesBefore text other p where
  above := habove
  line := by
    refine ⟨l, k, hl, hk, hbefore, ?_⟩
    rw [← List.take_append_drop p.character.toNat l, ← List.take_append_drop p.character.toNat k,
      indentation_append hbegun, ← hbefore, indentation_append hbegun]

end Text

namespace Section
variable {text other line : Text} {p : Position}

/-- The context of a cursor, from the lines above, the indentation of its line and the text before
it. -/
def contextBefore (above : List Text) (indent : Nat) (before : Text) : Context :=
  if endsInExpression before then ⟨.expression, before⟩
  else ⟨searchUp indent above.reverse, before⟩

/-- **The context of a cursor comes from what stands before it** and from the indentation of its
line. -/
theorem contextAt_eq_contextBefore (h : (Text.lines text)[p.line.toNat]? = some line) :
    contextAt text p = contextBefore ((Text.lines text).take p.line.toNat)
      (Text.indentation line) (line.take p.character.toNat) := by
  rw [contextAt, contextInLines, h]
  rfl

theorem contextAt_eq_of_agreesBefore (h : text.AgreesBefore other p) :
    contextAt text p = contextAt other p := by
  obtain ⟨l, k, hl, hk, hbefore, hindent⟩ := h.line
  rw [contextAt_eq_contextBefore hl, contextAt_eq_contextBefore hk, h.above, hbefore, hindent]

end Section

theorem Completion.itemsAt_eq_of_agreesBefore {text other : Text} {p : Position}
    (h : text.AgreesBefore other p) : itemsAt text p = itemsAt other p := by
  rw [itemsAt, itemsAt, Section.contextAt_eq_of_agreesBefore h]

end GraphLint
