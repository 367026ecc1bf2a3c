import GraphLint.Completion
import GraphLint.Proofs.Section.Cursor
import GraphLint.Proofs.Text.LineEnds
import GraphLint.Validation
/-! # Line ends do not matter

The stages that read the text itself, and the search for the section of a cursor, go by lines.  A
carriage return at the end of a line ends no marker pair and starts none; a fixed value and a header
may be followed by one; it is no space, no tab and no part of a key; trimming takes it away; and the
width of a line leaves it out.  So each of the matchers ignores it, and a text with `\r\n` for `\n`
is found to be what the text is (`alike_crlf`). -/
namespace GraphLint
open Text (SameLine IgnoresReturn)

/-! ## Expressions -/

namespace Expression
variable {text other : Text}

theorem ignoresReturn_pairs : IgnoresReturn pairs := fun line _ => pairs_concat (by decide) line

/-- The locator reports the same expressions at the same places. -/
theorem spans_eq_of_sameLines
    (h : List.Forall₂ SameLine (Text.lines text) (Text.lines other)) : spans other = spans text := by
  have hspans : ∀ t : Text, spans t =
      ((Text.lines t).map pairs).zipIdx.flatMap fun l => l.1.map (spanOf l.2) := fun t => by
    rw [spans, linesSpans_eq_flatMap, List.zipIdx_map, List.flatMap_map]
    rfl
  rw [hspans, hspans, ignoresReturn_pairs.map_eq h]

end Expression

/-! ## Fields -/

namespace Schema
variable {text other : Text} {name : String} {ls ls' : List Text}

theorem ignoresReturn_endsLine : IgnoresReturn endsLine := by
  intro line hline
  cases line with
  | nil => rfl
  | cons c rest =>
    cases rest with
    | nil =>
      have hc : c ≠ '\r' := fun h => hline (List.mem_singleton.mpr h.symm)
      simp [endsLine, hc]
    | cons d rest => simp [endsLine]

theorem FixedField.ignoresReturn_isGivenOn {f : FixedField} (hname : '\r' ∉ header f.name)
    (hvalue : ∀ v ∈ spellings f.value.toList, '\r' ∉ v) : IgnoresReturn f.isGivenOn := by
  have heq : f.isGivenOn = fun line =>
      (Text.after? (header f.name) (Text.dropSpaces line)).any fun rest =>
        (spellings f.value.toList).any fun v =>
          (Text.after? v (Text.dropSpaces rest)).any fun tail => endsLine (Text.dropSpaces tail) := by
    funext line
    unfold FixedField.isGivenOn
    cases Text.after? (header f.name) (Text.dropSpaces line) <;> rfl
  have hspelled : IgnoresReturn fun rest => (spellings f.value.toList).any fun v =>
      (Text.after? v (Text.dropSpaces rest)).any fun tail => endsLine (Text.dropSpaces tail) :=
    Text.ignoresReturn_any fun v hv =>
      (ignoresReturn_endsLine.comp_dropSpaces.any_after? (hvalue v hv)).comp_dropSpaces
  rw [heq]
  exact (hspelled.any_after? hname).comp_dropSpaces

theorem ignoresReturn_isHeader (hname : '\r' ∉ header name) : IgnoresReturn (isHeader name) := by
  have hbare : IgnoresReturn fun t : Text => decide (t = [] ∨ t = ['\r']) := by
    intro line hline
    have hne : line ≠ ['\r'] := fun h => hline (h ▸ List.mem_singleton_self _)
    simp [hne]
  have heq : isHeader name = fun line => (Text.after? (header name) line).any fun rest =>
      decide (Text.dropSpaces rest = [] ∨ Text.dropSpaces rest = ['\r']) := by
    funext line
    unfold isHeader
    cases Text.after? (header name) line with
    | none => rfl
    | some rest =>
      simp only [Option.any_some]
      split <;> simp_all
  rw [heq]
  exact hbare.comp_dropSpaces.any_after? hname

theorem ignoresReturn_isBlockLine : IgnoresReturn isBlockLine := by
  intro line _
  cases line with
  | nil => rfl
  | cons c rest =>
    cases rest with
    | nil => simp [isBlockLine]
    | cons d rest => simp [isBlockLine]

section
variable (h : List.Forall₂ SameLine ls ls')
include h

/-- The first block with a name is the same, but for carriage returns. -/
theorem blockLines?_rel (hname : '\r' ∉ header name) :
    Option.Rel (List.Forall₂ SameLine) (blockLines? name ls) (blockLines? name ls') := by
  induction h with
  | nil => exact .none
  | cons hline hrest ih =>
    have hbody := ignoresReturn_isBlockLine.takeWhile hrest
    have hempty : ∀ {xs ys : List Text}, List.Forall₂ SameLine xs ys → ys.isEmpty = xs.isEmpty :=
      fun hxs => by cases hxs <;> rfl
    simp only [blockLines?, (ignoresReturn_isHeader hname).eq hline, hempty hbody]
    split
    · exact .some hbody
    · exact ih

theorem headerLine_eq_of_sameLines : headerLine name ls' = headerLine name ls := by
  have hp : IgnoresReturn fun line => Text.trim line == header name := fun line hline =>
    congrArg (· == header name) (Text.ignoresReturn_trim line hline)
  rw [headerLine, headerLine, hp.findIdx?_eq h]

end

section
variable (h : List.Forall₂ SameLine (Text.lines text) (Text.lines other))
include h

theorem FixedField.findings_eq_of_sameLines {f : FixedField} (hname : '\n' ∉ header f.name)
    (hreturn : '\r' ∉ header f.name) (hvalue : ∀ v ∈ spellings f.value.toList, '\r' ∉ v) :
    f.findings other = f.findings text := by
  rw [FixedField.findings, FixedField.findings, Text.occurs_eq_of_sameLines h hname hreturn,
    (ignoresReturn_isGivenOn hreturn hvalue).any_eq h]

theorem Block.findings_eq_of_sameLines {b : Block} (hname : '\n' ∉ header b.name)
    (hreturn : '\r' ∉ header b.name) : b.findings other = b.findings text := by
  rw [Block.findings, Block.findings, Text.occurs_eq_of_sameLines h hname hreturn]

theorem Block.childFindings_eq_of_sameLines {b : Block} (hname : '\r' ∉ header b.name)
    (hchild : '\r' ∉ header b.child) : b.childFindings other = b.childFindings text := by
  have hblock := blockLines?_rel h hname
  unfold Block.childFindings
  generalize blockLines? b.name (Text.lines text) = block,
    blockLines? b.name (Text.lines other) = block' at hblock ⊢
  cases hblock with
  | none => rfl
  | some hbodies =>
    simp only [(Text.ignoresReturn_occurs hchild).any_eq hbodies, headerLine_eq_of_sameLines h,
      Text.fullLine_eq_of_sameLines h]

/-- The fields of the two texts are found to be the same. -/
theorem findings_eq_of_sameLines : findings other = findings text := by
  rw [findings, findings,
    FixedField.findings_eq_of_sameLines h (f := kind) (by decide) (by decide) (by decide),
    FixedField.findings_eq_of_sameLines h (f := apiVersion) (by decide) (by decide) (by decide),
    Block.findings_eq_of_sameLines h (b := metadata) (by decide) (by decide),
    Block.findings_eq_of_sameLines h (b := spec) (by decide) (by decide),
    Block.childFindings_eq_of_sameLines h (b := metadata) (by decide) (by decide),
    Block.childFindings_eq_of_sameLines h (b := spec) (by decide) (by decide)]

end

end Schema

/-! ## Cursors -/

namespace Section
variable {text other : Text} {ls ls' : List Text} {context context' : Context}

/-- No opening marker ends in a carriage return, and no closing marker begins with one. -/
theorem ignoresReturn_endsInExpression : IgnoresReturn endsInExpression := by
  intro line _
  have hclosed : ∀ v, Expression.closeMarker <:+: v ++ ['\r'] ↔ Expression.closeMarker <:+: v := by
    intro v
    rw [Text.isInfix_append_cons_iff (by decide), or_iff_left (by decide)]
  rw [Bool.eq_iff_iff, endsInExpression_iff, endsInExpression_iff]
  constructor
  · rintro ⟨u, v, h, hclose⟩
    rcases List.eq_nil_or_concat v with rfl | ⟨v, c, rfl⟩
    · have hbrace : line ++ ['\r'] = (u ++ ['{']) ++ ['{'] := by
        simpa [Expression.openMarker] using h
      exact absurd (List.append_inj_right' hbrace rfl) (by decide)
    · rw [List.concat_eq_append, ← List.append_assoc] at h
      rw [List.concat_eq_append] at hclose
      obtain ⟨hline, hc⟩ := List.append_inj' h rfl
      rw [← hc, hclosed] at hclose
      exact ⟨u, v, hline, hclose⟩
  · rintro ⟨u, v, rfl, hclose⟩
    exact ⟨u, v ++ ['\r'], List.append_assoc _ _ _, mt (hclosed v).mp hclose⟩

/-- The search upwards meets the same headers at the same indentations. -/
theorem searchUp_eq_of_sameLines (h : List.Forall₂ SameLine ls ls') (indent : Nat) :
    searchUp indent ls' = searchUp indent ls := by
  have hstep : ∀ s : Search, IgnoresReturn s.observeLine := by
    intro s line hline
    rw [Search.observeLine, Text.ignoresReturn_indentation line hline,
      Text.ignoresReturn_trim line hline]
    rfl
  have hrun : ∀ s : Search, ls'.foldl Search.observeLine s = ls.foldl Search.observeLine s := by
    induction h with
    | nil => exact fun _ => rfl
    | cons hline _ ih =>
      intro s
      rw [List.foldl_cons, List.foldl_cons, (hstep s).eq hline]
      exact ih _
  rw [searchUp, searchUp, hrun]

/-- Two contexts are the same but for a carriage return that may end the text before the cursor. -/
structure SameContext (context other : Context) : Prop where
  place_eq : other.place = context.place
  before : SameLine context.before other.before

theorem sameContext_contextInLines (h : List.Forall₂ SameLine ls ls') (cursor : Position) :
    SameContext (contextInLines ls cursor) (contextInLines ls' cursor) := by
  have habove := List.forall₂_reverse_iff.mpr (List.forall₂_take cursor.line.toNat h)
  have hat := Text.getElem?_rel h cursor.line.toNat
  unfold contextInLines
  generalize ls[cursor.line.toNat]? = found, ls'[cursor.line.toNat]? = found' at hat ⊢
  cases hat with
  | none => exact ⟨rfl, .same nofun⟩
  | some hline =>
    have hbefore := hline.take cursor.character.toNat
    simp only [ignoresReturn_endsInExpression.eq hbefore, Text.ignoresReturn_indentation.eq hline,
      searchUp_eq_of_sameLines habove]
    split
    · exact ⟨rfl, hbefore⟩
    · exact ⟨rfl, hbefore⟩

end Section

/-- In such contexts the same entries are offered. -/
theorem Completion.itemsFor_eq_of_sameContext {context other : Section.Context}
    (h : Section.SameContext context other) : itemsFor other = itemsFor context := by
  unfold itemsFor
  rw [h.place_eq, (Text.ignoresReturn_occurs (by decide)).eq h.before]

/-! ## The two texts -/

/-- How two texts are the same to the stages that go by lines. -/
structure Alike (text other : Text) : Prop where
  /-- The same findings about the expressions, at the same places and in the same order. -/
  expressions : ∀ config,
    Validation.checkExpressions config other = Validation.checkExpressions config text
  /-- The same findings about the fields. -/
  fields : ∀ config, Schema.check config other = Schema.check config text
  /-- A cursor stands in the same section. -/
  context : ∀ cursor,
    Section.SameContext (Section.contextAt text cursor) (Section.contextAt other cursor)
  /-- The same entries are offered there. -/
  items : ∀ cursor, Completion.itemsAt other cursor = Completion.itemsAt text cursor

theorem alike_of_sameLines {text other : Text}
    (h : List.Forall₂ SameLine (Text.lines text) (Text.lines other)) : Alike text other where
  expressions config := by
    rw [Validation.checkExpressions, Validation.checkExpressions, Expression.spans_eq_of_sameLines h]
  fields config := by rw [Schema.check, Schema.check, Schema.findings_eq_of_sameLines h]
  context cursor := Section.sameContext_contextInLines h cursor
  items cursor := Completion.itemsFor_eq_of_sameContext (Section.sameContext_contextInLines h cursor)

/-- **A carriage return before every line feed changes nothing** for the stages that go by lines. -/
theorem alike_crlf {text : Text} (h : '\r' ∉ text) : Alike text (Text.crlf text) :=
  alike_of_sameLines (Text.sameLines_crlf h)

/-- A graph with a quoted value and a comment, a value that is not the fixed one, a block without its
field, an expression that ends in an operator and an open one at the end of a line. -/
def faultyGraph : Text :=
  ["apiVersion: \"kro.run/v1alpha1\" # quoted", "kind: Graph # another", "metadata:",
    "  labels: \x7b\x7b a + \x7d\x7d", "spec:", "  resources:",
    "    web: \x7b\x7b size("].flatMap (·.toList ++ ['\n'])

theorem alike_crlf_faultyGraph :
    '\r' ∉ faultyGraph ∧ (Text.crlf faultyGraph).count '\r' = 7 ∧
      (Schema.findings faultyGraph).map (·.rule) = ["schema::kind", "schema::metadata-name"] ∧
      Alike faultyGraph (Text.crlf faultyGraph) := by
  have h : '\r' ∉ faultyGraph ∧ (Text.crlf faultyGraph).count '\r' = 7 ∧
      (Schema.findings faultyGraph).map (·.rule) = ["schema::kind", "schema::metadata-name"] := by
    decide +kernel
  exact ⟨h.1, h.2.1, h.2.2, alike_crlf h.1⟩

end GraphLint
