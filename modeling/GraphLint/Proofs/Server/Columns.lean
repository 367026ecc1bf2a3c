import GraphLint.Proofs.Expression.Exact
import GraphLint.Proofs.Server.Publication
import GraphLint.Proofs.Text.Units
import GraphLint.Proofs.Validation.Pipeline
/-! # What the columns of a published finding count

The columns of a finding about an expression count characters, and the server sends them as they are.
It agrees with editors on no other unit than the one of the protocol, which is UTF-16: so an editor
takes them for numbers of units.  Read as numbers of characters they cut the expression out of its line.
Read as numbers of units they do so exactly if every character of the line up to the end of the
expression is in the basic plane (`published_columns`), since beyond it a character takes two units
(`Text.cut_units_iff`). -/
namespace GraphLint

/-- What a range cuts out of a line that is a list of anything: a part, and the part before it. -/
structure Range.CutsOut {α : Type} (r : Range) (line before part : List α) : Prop where
  before_eq : line.take r.start.character.toNat = before
  part_eq : (line.drop r.start.character.toNat).take
    (r.stop.character.toNat - r.start.character.toNat) = part

namespace Expression
variable {text line : Text} {i : Nat} {p : Pair}

/-- A line that holds a pair is what stands before the pair, the pair, and a rest. -/
theorem Pair.OccursIn.exists_eq_append (h : p.OccursIn line) :
    ∃ before rest, line = before ++ p.text ++ rest ∧ before.length = p.start := by
  have hstop := stop_le_length h
  have hlt := p.start_lt_stop
  obtain ⟨rest, hrest⟩ := h.2
  refine ⟨line.take p.start, rest, ?_, ?_⟩
  · rw [List.append_assoc, hrest, List.take_append_drop]
  · rw [List.length_take]
    omega

/-- How the range of a pair cuts the pair out of its line. -/
structure Pair.Columns (p : Pair) (line : Text) (r : Range) : Prop where
  /-- In characters it does. -/
  characters : r.CutsOut line (line.take p.start) p.text
  /-- In units it does exactly if no character up to the end of the pair takes two. -/
  units : r.CutsOut line.units (Text.units (line.take p.start)) (Text.units p.text) ↔
    Text.IsBasic (line.take p.stop)

theorem columns_spanOf (ht : text.Addressable) (hline : (Text.lines text)[i]? = some line)
    (hp : p ∈ pairs line) : p.Columns line (spanOf i p).range := by
  obtain ⟨-, hstart, hstop⟩ := toNat_spanOf ht (mem_linePairs.mpr ⟨line, hline, hp⟩)
  obtain ⟨before, rest, rfl, hbefore⟩ := (occursIn_of_mem_pairs hp).exists_eq_append
  have hlength : p.stop - p.start = p.text.length := by
    rw [Pair.length_text, Pair.stop]
    omega
  have hupto : (before ++ p.text ++ rest).take p.stop = before ++ p.text := by
    have hsum : p.stop = (before ++ p.text).length := by
      have := p.start_lt_stop
      rw [List.length_append]
      omega
    rw [hsum, List.take_left]
  have hlead : (before ++ p.text ++ rest).take p.start = before := by
    rw [← hbefore, List.append_assoc, List.take_left]
  constructor
  case characters =>
    refine ⟨by rw [hstart], ?_⟩
    rw [hstart, hstop, hlength, ← hbefore, List.append_assoc, List.drop_left, List.take_left]
  case units =>
    rw [hupto, hlead, ← Text.cut_units_iff before p.text rest]
    constructor
    · rintro ⟨hb, hpart⟩
      rw [hstart, ← hbefore] at hb
      rw [hstart, hstop, hlength, ← hbefore] at hpart
      exact ⟨hb, hpart⟩
    · rintro ⟨hb, hpart⟩
      refine ⟨?_, ?_⟩
      · rw [hstart, ← hbefore]
        exact hb
      · rw [hstart, hstop, hlength, ← hbefore]
        exact hpart

end Expression

namespace Validation
open Expression (Span Pair pairs spanOf)
variable {config : Config} {text : Text} {d : Diagnostic}

/-- A finding of the stage for expressions is about an expression of a line. -/
theorem exists_describes_of_stage (h : d ∈ validate config text) (hstage : d.stage = .cel) :
    ∃ i line p, (Text.lines text)[i]? = some line ∧ p ∈ pairs line ∧ Describes (spanOf i p) d := by
  rw [validate] at h
  cases hv : Yaml.check (Expression.neutralise text) with
  | error e =>
    rw [validateBy_of_error hv, List.mem_singleton] at h
    rw [h] at hstage
    cases hstage
  | ok _ =>
    rw [validateBy_of_ok hv] at h
    rcases List.mem_append.mp h with h | h
    · obtain ⟨span, hspan, hdesc⟩ :=
        exists_describes_of_mem (describes_checkExpressions config text) h
      obtain ⟨i, p, hmem, rfl⟩ := Expression.exists_mem_linePairs (List.mem_filter.mp hspan).1
      obtain ⟨line, hline, hp⟩ := Expression.mem_linePairs.mp hmem
      exact ⟨i, line, p, hline, hp, hdesc⟩
    · have hschema := (findings_check config text).fields_stage d h
      rw [hschema] at hstage
      cases hstage

end Validation

namespace Server
open Expression (Pair pairs spanOf)
variable {s : Server} {a : Arrival} {p : Publication} {d : Diagnostic}

/-- What is published when a message arrives is found in a document that is stored then. -/
theorem exists_document_of_mem_publishedBy (hp : p ∈ publishedBy s a) (hd : d ∈ p.found) :
    ∃ config doc, (s.arrive a).server.documents.get? p.uri = some doc ∧
      d ∈ Validation.validate config doc.text := by
  have hdue : ∃ i, p.found = (s.arrive a).server.dueFindings i p.uri := by
    rcases step_publishes a.files s a.connection a.message with ⟨hsent, -⟩ | ⟨u, -, hsent, -⟩
    · rw [publishedBy, arrive, hsent] at hp
      cases hp
    · rw [publishedBy, arrive, hsent, List.mem_singleton] at hp
      rw [hp]
      exact ⟨_, rfl⟩
  obtain ⟨i, hfound⟩ := hdue
  rw [hfound, dueFindings] at hd
  cases hdoc : (s.arrive a).server.documents.get? p.uri with
  | none =>
    rw [hdoc] at hd
    cases hd
  | some doc =>
    rw [hdoc] at hd
    change d ∈ Validation.validateDocument _ _ _ at hd
    rw [Validation.validateDocument] at hd
    split at hd
    · exact ⟨_, doc, rfl, hd⟩
    · cases hd

/-- What a published finding about an expression of a stored document says of its place. -/
structure TellsPlace (text : Text) (d : Diagnostic) (i : Nat) (line : Text) (e : Pair) : Prop where
  /-- The expression is a marker pair of a line, -/
  line_eq : (Text.lines text)[i]? = some line
  mem_pairs : e ∈ pairs line
  /-- and what is found is what its checks say. -/
  describes : Validation.Describes (spanOf i e) d
  /-- The message to the editor carries the range of the finding, and that is the range of the pair:
  the line and numbers of characters, as words. -/
  carried : (ofDiagnostic d).field? "range" = some (ofRange ⟨.ofNat i e.start, .ofNat i e.stop⟩)
  /-- If words count its lines and characters, they cut the pair out of the line as characters, and as
  units exactly if no character up to the end of the pair takes two. -/
  columns : text.Addressable → d.range.start.line.toNat = i ∧ d.range.stop.line.toNat = i ∧
    e.Columns line d.range

/-- **The columns of a published finding about an expression count characters**, and the server names
no unit when it starts, so that an editor counts in UTF-16. -/
theorem published_columns (hp : p ∈ publishedBy s a) (hd : d ∈ p.found) (hstage : d.stage = .cel) :
    ((ofAnswer .capabilities).field? "capabilities").bind (·.field? "positionEncoding") = none ∧
      ∃ doc, (s.arrive a).server.documents.get? p.uri = some doc ∧
        ∃ i line e, TellsPlace doc.text d i line e := by
  obtain ⟨config, doc, hdoc, hfound⟩ := exists_document_of_mem_publishedBy hp hd
  obtain ⟨i, line, e, hline, he, hdesc⟩ := Validation.exists_describes_of_stage hfound hstage
  have hrange : d.range = (spanOf i e).range := by
    obtain ⟨_, _, rfl⟩ := hdesc
    rfl
  refine ⟨rfl, doc, hdoc, i, line, e, hline, he, hdesc, ?_, fun ht => ?_⟩
  · rw [show (⟨.ofNat i e.start, .ofNat i e.stop⟩ : Range) = d.range from hrange.symm]
    rfl
  · have hmem := Expression.mem_linePairs.mpr ⟨line, hline, he⟩
    have hi := (Expression.toNat_spanOf ht hmem).1
    rw [hrange]
    exact ⟨hi, hi, Expression.columns_spanOf ht hline he⟩

/-! ## Two openings -/

/-- A server with running connections that look at expressions only. -/
def watching : Server where
  connections := fun _ => ⟨.running, { rules := { schema := false } }⟩

/-- The opening of a document with a text. -/
def openingOf (text : Text) : Arrival :=
  ⟨⟨.directory [], []⟩, 0,
    .notice (.opened ⟨['f'], none, .flat "a.kro".toList, none, none⟩ "kro".toList text)⟩

/-- A line with an expression that ends in an operator, behind a character of two octets. -/
def accentedLine : Text := "a: é \x7b\x7b b + \x7d\x7d".toList

/-- The same line with a character of two units before the expression. -/
def smilingLine : Text := "a: 😀 \x7b\x7b b + \x7d\x7d".toList

/-- The finding about the expression, on either line. -/
def openEnd : Diagnostic :=
  .ofError ⟨⟨0, 5⟩, ⟨0, 14⟩⟩ .cel "cel::operators"
    "CEL Expression Error: Expression ends with an operator"

/-- The publication that carries it. -/
def openEndPublished : Publication :=
  ⟨0, ⟨['f'], none, .flat "a.kro".toList, none, none⟩, [openEnd]⟩

theorem mem_publishedBy_accentedLine :
    openEndPublished ∈ publishedBy watching (openingOf accentedLine) := by
  decide +kernel

theorem mem_publishedBy_smilingLine :
    openEndPublished ∈ publishedBy watching (openingOf smilingLine) := by
  decide +kernel

theorem published_columns_accentedLine :
    openEndPublished ∈ publishedBy watching (openingOf accentedLine) ∧
      openEnd ∈ openEndPublished.found ∧ openEnd.stage = .cel ∧
      ((ofAnswer .capabilities).field? "capabilities").bind (·.field? "positionEncoding") = none ∧
      ∃ doc, (watching.arrive (openingOf accentedLine)).server.documents.get? openEndPublished.uri =
        some doc ∧ ∃ i line e, TellsPlace doc.text openEnd i line e :=
  have hmem : openEnd ∈ openEndPublished.found := List.mem_cons_self
  ⟨mem_publishedBy_accentedLine, hmem, rfl,
    published_columns mem_publishedBy_accentedLine hmem rfl⟩

/-- Where a character of two units stands before an expression, the columns of the finding about it,
read as numbers of units, do not cut the expression out of its line. -/
theorem smilingLine_misread :
    openEndPublished ∈ publishedBy watching (openingOf smilingLine) ∧
      openEnd ∈ openEndPublished.found ∧ openEnd.stage = .cel ∧
      ((watching.arrive (openingOf smilingLine)).server.documents.get? openEndPublished.uri).map
        (·.text) = some smilingLine ∧
      ¬ ∃ i line e, TellsPlace smilingLine openEnd i line e ∧
        openEnd.range.CutsOut line.units (Text.units (line.take e.start)) (Text.units e.text) := by
  refine ⟨mem_publishedBy_smilingLine, List.mem_cons_self, rfl, by decide +kernel, ?_⟩
  rintro ⟨i, line, e, h, hcut⟩
  obtain ⟨hi, -, hcolumns⟩ := h.columns ⟨by decide, by decide⟩
  have hfirst : (Text.lines smilingLine)[0]? = some smilingLine := by decide
  have hpairs : Expression.pairs smilingLine = [⟨5, " b + ".toList⟩] := by decide
  obtain rfl : 0 = i := hi
  obtain rfl : smilingLine = line := Option.some.inj (hfirst.symm.trans h.line_eq)
  obtain rfl : e = ⟨5, " b + ".toList⟩ := List.mem_singleton.mp (hpairs ▸ h.mem_pairs)
  have hbasic := hcolumns.units.mp hcut
  have hmem : '😀' ∈ smilingLine.take (Pair.stop ⟨5, " b + ".toList⟩) := by decide +kernel
  exact absurd (hbasic '😀' hmem) (by decide +kernel)

end Server
end GraphLint
