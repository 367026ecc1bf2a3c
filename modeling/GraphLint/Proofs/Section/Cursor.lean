import GraphLint.Proofs.Expression.Locator
import GraphLint.Proofs.Text.Search
import GraphLint.Section
/-! # A cursor in a span

The locator reads a line forwards and cuts out marker pairs; the context of a cursor looks backwards
from the cursor, for the last opening marker and for a closing marker after it.  The two agree on
every span (`cursorAgreement_of_mem_spans`): between its markers a cursor is inside an expression,
and right after it the cursor is not.

It does not matter which opening marker the search backwards meets.  A text ends in an expression
exactly if some opening marker has no closing marker after it (`endsInExpression_iff`).  The opening
marker of a span is one as long as the cursor has not passed both closing braces, since the body has
none; and from there on no marker is one, since the two braces follow them all. -/
namespace GraphLint

namespace Expression

/-- A span stands on a line of a text, from one column up to another one. -/
structure Span.StandsAt (text : Text) (span : Span) (i start stop : Nat) : Prop where
  range_eq : span.range = ⟨.ofNat i start, .ofNat i stop⟩
  stop_eq : stop = start + span.text.length
  occurs : ∃ line, (Text.lines text)[i]? = some line ∧ span.text <+: line.drop start

section
variable {text : Text} {span : Span}

theorem standsAt_spanOf {i : Nat} {p : Pair} (h : (i, p) ∈ linePairs text) :
    (spanOf i p).StandsAt text i p.start p.stop where
  range_eq := rfl
  stop_eq := by
    rw [show (spanOf i p).text.length = p.body.length + 4 from p.length_text, Pair.stop,
      Nat.add_assoc]
  occurs := by
    obtain ⟨line, hline, hp⟩ := mem_linePairs.mp h
    exact ⟨line, hline, (occursIn_of_mem_pairs hp).2⟩

/-- In an addressable text a span stands where its range says. -/
theorem standsAt_range (ht : text.Addressable) (h : span ∈ spans text) :
    span.StandsAt text span.range.start.line.toNat span.range.start.character.toNat
      span.range.stop.character.toNat := by
  obtain ⟨i, p, hmem, rfl⟩ := exists_mem_linePairs h
  obtain ⟨hline, hstart, hstop⟩ := toNat_spanOf ht hmem
  rw [hline, hstart, hstop]
  exact standsAt_spanOf hmem

end
end Expression

namespace Section
open Expression

/-! ## The last opening marker -/

theorem exists_eq_append_of_afterLastMarker? {t v : Text} (h : afterLastMarker? t = some v) :
    ∃ u, t = u ++ openMarker ++ v := by
  induction t with
  | nil => cases h
  | cons c t ih =>
    rw [afterLastMarker?] at h
    cases hrest : afterLastMarker? t with
    | some w =>
      rw [hrest] at h
      obtain ⟨u, hu⟩ := ih (hrest.trans h)
      exact ⟨c :: u, by rw [hu]; rfl⟩
    | none =>
      rw [hrest] at h
      exact ⟨[], Text.after?_eq_some_iff.mp h⟩

/-- What follows the last opening marker ends what follows any other one. -/
theorem exists_afterLastMarker?_eq_some (u v : Text) :
    ∃ w, afterLastMarker? (u ++ openMarker ++ v) = some w ∧ w <:+ v := by
  induction u with
  | nil =>
    -- the marker is the first of all, so another one may follow it or overlap it
    have hmarker : Text.after? openMarker ('{' :: '{' :: v) = some v :=
      Text.after?_eq_some_iff.mpr rfl
    change ∃ w, afterLastMarker? ('{' :: '{' :: v) = some w ∧ w <:+ v
    rw [afterLastMarker?]
    cases hrest : afterLastMarker? ('{' :: v) with
    | none => exact ⟨v, hmarker, List.suffix_refl v⟩
    | some w =>
      refine ⟨w, rfl, ?_⟩
      obtain ⟨s, hs⟩ := exists_eq_append_of_afterLastMarker? hrest
      cases s with
      | nil =>
        obtain rfl : v = '{' :: w := (List.cons.inj hs).2
        exact List.suffix_cons '{' w
      | cons c s =>
        rw [(List.cons.inj hs).2]
        exact List.suffix_append _ w
  | cons c u ih =>
    obtain ⟨w, hw, hsuffix⟩ := ih
    refine ⟨w, ?_, hsuffix⟩
    rw [List.cons_append, List.cons_append, afterLastMarker?, hw]

/-- **A text ends in an expression exactly if an opening marker has no closing marker after it.** -/
theorem endsInExpression_iff {t : Text} :
    endsInExpression t = true ↔ ∃ u v, t = u ++ openMarker ++ v ∧ ¬ closeMarker <:+: v := by
  unfold endsInExpression
  rw [Option.any_eq_true]
  constructor
  · rintro ⟨v, hv, hclose⟩
    obtain ⟨u, hu⟩ := exists_eq_append_of_afterLastMarker? hv
    refine ⟨u, v, hu, fun hin => ?_⟩
    rw [Text.occurs_iff_isInfix.mpr hin] at hclose
    cases hclose
  · rintro ⟨u, v, rfl, hclose⟩
    obtain ⟨w, hw, hsuffix⟩ := exists_afterLastMarker?_eq_some u v
    refine ⟨w, hw, ?_⟩
    rw [Bool.not_eq_true', Bool.eq_false_iff, ne_eq, Text.occurs_iff_isInfix]
    exact fun hin => hclose (hin.trans hsuffix.isInfix)

/-! ## A cursor in a pair and behind it -/

section
variable {before body : Text} (hbody : '}' ∉ body)
include hbody

/-- Of the closing marker of a pair, one brace alone closes nothing. -/
theorem not_isInfix_append_brace : ¬ closeMarker <:+: body ++ ['}'] := by
  intro h
  have hcount := h.sublist.count_le '}'
  rw [List.count_append, List.count_eq_zero_of_not_mem hbody] at hcount
  exact absurd hcount (by decide)

theorem endsInExpression_take {k : Nat} (htwo : 2 ≤ k) (hk : k < body.length + 4) :
    endsInExpression (before ++ (openMarker ++ body ++ closeMarker).take k) = true := by
  obtain ⟨n, rfl⟩ := Nat.exists_eq_add_of_le htwo
  refine endsInExpression_iff.mpr ⟨before, (body ++ closeMarker).take n, ?_, fun hin => ?_⟩
  · rw [List.append_assoc openMarker, show 2 + n = openMarker.length + n from rfl,
      List.take_length_add_append, List.append_assoc]
  · have hle : n ≤ (body ++ ['}']).length := by
      rw [List.length_append, List.length_singleton]
      omega
    have htake : (body ++ closeMarker).take n <+: body ++ ['}'] := by
      rw [show closeMarker = ['}'] ++ ['}'] from rfl, ← List.append_assoc,
        List.take_append_of_le_length hle]
      exact List.take_prefix n _
    exact not_isInfix_append_brace hbody (hin.trans htake.isInfix)

omit hbody in
theorem endsInExpression_append_closeMarker (t : Text) :
    endsInExpression (t ++ closeMarker) = false := by
  rw [Bool.eq_false_iff, ne_eq, endsInExpression_iff]
  rintro ⟨u, v, h, hclose⟩
  obtain ⟨x, rfl, _⟩ := exists_eq_append_closeMarker h
  exact hclose (List.suffix_append x closeMarker).isInfix

end

/-! ## The section around a cursor -/

theorem ofHeader_ne_expression (line : Text) : ofHeader line ≠ .expression := by
  unfold ofHeader
  split
  · exact nofun
  · split
    · exact nofun
    · split <;> exact nofun

/-- No line above a cursor is the header of an expression. -/
theorem searchUp_ne_expression (indent : Nat) (above : List Text) :
    searchUp indent above ≠ .expression := by
  have hstep : ∀ (s : Search) (line : Text),
      s.found ≠ some .expression → (s.observeLine line).found ≠ some .expression := by
    intro s line hs
    unfold Search.observeLine Search.observe
    split
    · exact hs
    · exact fun h => ofHeader_ne_expression _ (Option.some.inj h)
  have hrun : ∀ s : Search, s.found ≠ some .expression →
      (above.foldl Search.observeLine s).found ≠ some .expression := by
    induction above with
    | nil => exact fun s hs => hs
    | cons line rest ih => exact fun s hs => ih _ (hstep s line hs)
  intro h
  have hfound := hrun (.start indent) nofun
  unfold searchUp Search.result at h
  cases hs : (above.foldl Search.observeLine (.start indent)).found with
  | none =>
    rw [hs] at h
    cases h
  | some found =>
    rw [hs] at h hfound
    exact hfound (congrArg some h)

/-- **A cursor is inside an expression exactly if the text before it ends in one.** -/
theorem place_contextAt_eq_expression_iff {text line : Text} {cursor : Position}
    (h : (Text.lines text)[cursor.line.toNat]? = some line) :
    (contextAt text cursor).place = .expression ↔
      endsInExpression (line.take cursor.character.toNat) = true := by
  unfold contextAt contextInLines
  rw [h]
  by_cases hin : endsInExpression (line.take cursor.character.toNat) = true
  · simp only [hin, if_true]
  · simp only [hin, if_false, Bool.false_eq_true, iff_false]
    exact searchUp_ne_expression _ _

/-- How the context of a cursor and the locator agree on a span. -/
structure CursorAgreement (text : Text) (span : Span) : Prop where
  /-- The span stands somewhere. -/
  stands : ∃ i start stop, span.StandsAt text i start stop
  /-- In a text whose lines and columns are words that is where its range says. -/
  stands_range : text.Addressable → span.StandsAt text span.range.start.line.toNat
    span.range.start.character.toNat span.range.stop.character.toNat
  /-- From behind its opening marker up to between the two braces of its closing one a cursor is
  inside an expression. -/
  inside : ∀ i start stop, span.StandsAt text i start stop → ∀ cursor : Position,
    cursor.line.toNat = i → start + 2 ≤ cursor.character.toNat →
      cursor.character.toNat + 1 ≤ stop → (contextAt text cursor).place = .expression
  /-- Right behind the span it is not. -/
  behind : ∀ i start stop, span.StandsAt text i start stop → ∀ cursor : Position,
    cursor.line.toNat = i → cursor.character.toNat = stop →
      (contextAt text cursor).place ≠ .expression

/-- **The context of a cursor agrees with the locator** on every span of every text. -/
theorem cursorAgreement_of_mem_spans {text : Text} {span : Span} (h : span ∈ spans text) :
    CursorAgreement text span := by
  obtain ⟨i, p, hmem, rfl⟩ := exists_mem_linePairs h
  obtain ⟨_, _, hp⟩ := mem_linePairs.mp hmem
  have hbody : '}' ∉ p.body := (occursIn_of_mem_pairs hp).1
  have hlen : (spanOf i p).text.length = p.body.length + 4 := p.length_text
  -- the line up to a cursor in the span or right behind it
  have htake : ∀ {line : Text} {start : Nat}, (spanOf i p).text <+: line.drop start →
      ∀ k, k ≤ (spanOf i p).text.length →
        line.take (start + k) = line.take start ++ (spanOf i p).text.take k := by
    rintro line start ⟨tail, htail⟩ k hk
    rw [List.take_add, ← htail, List.take_append_of_le_length hk]
  constructor
  case stands => exact ⟨i, p.start, p.stop, standsAt_spanOf hmem⟩
  case stands_range => exact fun ht => standsAt_range ht h
  case inside =>
    rintro _ start _ ⟨_, rfl, line, hline, hocc⟩ cursor rfl hlo hhi
    obtain ⟨k, hk⟩ := Nat.exists_eq_add_of_le (show start ≤ cursor.character.toNat by omega)
    rw [place_contextAt_eq_expression_iff hline, hk, htake hocc k (by omega)]
    exact endsInExpression_take hbody (by omega) (by omega)
  case behind =>
    rintro _ start _ ⟨_, rfl, line, hline, hocc⟩ cursor rfl hend
    rw [ne_eq, place_contextAt_eq_expression_iff hline, hend, htake hocc _ (Nat.le_refl _),
      List.take_length, Span.text, ← List.append_assoc, endsInExpression_append_closeMarker]
    exact Bool.false_ne_true

/-- A line with a character of two octets, opening markers that overlap and repeat, and a brace next
to a marker. -/
def crowdedLine : Text := "é \x7b\x7b\x7b \x7b\x7b a \x7d\x7d\x7d \x7b\x7bb\x7d\x7d".toList

theorem cursorAgreement_of_mem_spans_crowdedLine :
    (⟨⟨.ofNat 0 2, .ofNat 0 13⟩, "\x7b \x7b\x7b a ".toList⟩ : Span) ∈ spans crowdedLine ∧
      CursorAgreement crowdedLine ⟨⟨.ofNat 0 2, .ofNat 0 13⟩, "\x7b \x7b\x7b a ".toList⟩ :=
  ⟨by decide, cursorAgreement_of_mem_spans (by decide)⟩

end Section
end GraphLint
