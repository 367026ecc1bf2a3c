import GraphLint.Proofs.Validation.Pipeline
/-! # Expressions are judged line by line

The locator reads each line on its own, and the checks look at nothing but the body of a span.  So
the findings about a list of lines are those about its lines one after the other, each as it is for
the line alone and moved down to where the line stands (`findingsOn_append`, `findingsOn_singleton`).
Moving down is addition of words, and it commutes with everything that is done with a span
(`linesSpans_add`, `checkSpan_down`).  Hence a text that is cut at a line feed has the findings of its
two parts, and putting in a line, taking one out or writing one anew leaves all others their findings
(`checkExpressions_lineLocal`).  The neutraliser, which reads the whole text at once, has no such
law. -/
namespace GraphLint

/-! ## Moving down -/

/-- The position a number of lines further down. -/
def Position.down (n : Nat) (p : Position) : Position := ⟨p.line + UInt32.ofNat n, p.character⟩

/-- The range a number of lines further down. -/
def Range.down (n : Nat) (r : Range) : Range := ⟨r.start.down n, r.stop.down n⟩

/-- The finding a number of lines further down; all else about it stays as it is. -/
def Diagnostic.down (n : Nat) (d : Diagnostic) : Diagnostic := { d with range := d.range.down n }

/-- The span a number of lines further down. -/
def Expression.Span.down (n : Nat) (s : Expression.Span) : Expression.Span :=
  ⟨s.range.down n, s.inner⟩

theorem Position.ofNat_add_line (i n c : Nat) : ofNat (i + n) c = (ofNat i c).down n := by
  rw [ofNat, ofNat, down, UInt32.ofNat_add]

/-- Where the words suffice, the number of the line grows by the number of lines. -/
theorem Position.toNat_line_down {p : Position} {n : Nat} (h : p.line.toNat + n < UInt32.size) :
    (p.down n).line.toNat = p.line.toNat + n := by
  have hn : (UInt32.ofNat n).toNat = n := UInt32.toNat_ofNat_of_lt' (by omega)
  rw [down, UInt32.toNat_add, hn]
  exact Nat.mod_eq_of_lt h

/-! ## Spans -/

namespace Expression

theorem linesSpans_append (n : Nat) (ls ms : List Text) :
    linesSpans n (ls ++ ms) = linesSpans n ls ++ linesSpans (n + ls.length) ms := by
  induction ls generalizing n with
  | nil => rfl
  | cons line ls ih =>
    rw [List.cons_append, linesSpans, linesSpans, ih, List.append_assoc, List.length_cons,
      Nat.add_assoc, Nat.add_comm 1]

theorem spanOf_add (i n : Nat) (p : Pair) : spanOf (i + n) p = (spanOf i p).down n := by
  rw [spanOf, Position.ofNat_add_line, Position.ofNat_add_line]
  rfl

/-- Lines further down have their spans further down. -/
theorem linesSpans_add (n k : Nat) (ls : List Text) :
    linesSpans (n + k) ls = (linesSpans n ls).map (Span.down k) := by
  induction ls generalizing n with
  | nil => rfl
  | cons line ls ih =>
    have hline : lineSpans (n + k) line = (lineSpans n line).map (Span.down k) := by
      rw [lineSpans, lineSpans, spansFrom_eq_map, spansFrom_eq_map, List.map_map]
      exact List.map_congr_left fun p _ => spanOf_add n k p
    rw [linesSpans, linesSpans, List.map_append, hline, Nat.add_right_comm, ih]

end Expression

/-! ## Findings -/

namespace Validation
open Expression (linesSpans)

variable {config : Config}

/-- What is found in a span does not depend on where it stands. -/
theorem checkSpan_down (config : Config) (n : Nat) (span : Expression.Span) :
    checkSpan config (span.down n) = (checkSpan config span).map (Diagnostic.down n) := by
  have hbody : (span.down n).body = span.body := rfl
  rw [checkSpan, checkSpan, hbody]
  cases Expression.check span.body with
  | ok _ => rfl
  | error problem =>
    dsimp only
    split <;> rfl

/-- The findings about the expressions of lines, the first of which has the number `n`. -/
def findingsOn (config : Config) (n : Nat) (ls : List Text) : List Diagnostic :=
  if config.rules.expressions then (linesSpans n ls).filterMap (checkSpan config) else []

theorem checkExpressions_eq_findingsOn (config : Config) (text : Text) :
    checkExpressions config text = findingsOn config 0 (Text.lines text) := rfl

theorem findingsOn_append (config : Config) (n : Nat) (ls ms : List Text) :
    findingsOn config n (ls ++ ms) =
      findingsOn config n ls ++ findingsOn config (n + ls.length) ms := by
  unfold findingsOn
  split
  · rw [Expression.linesSpans_append, List.filterMap_append]
  · rfl

theorem findingsOn_add (config : Config) (n k : Nat) (ls : List Text) :
    findingsOn config (n + k) ls = (findingsOn config n ls).map (Diagnostic.down k) := by
  have hcheck : checkSpan config ∘ Expression.Span.down k =
      fun span => (checkSpan config span).map (Diagnostic.down k) := by
    funext span
    rw [Function.comp_apply, checkSpan_down]
  unfold findingsOn
  split
  · rw [Expression.linesSpans_add, List.filterMap_map, List.map_filterMap, hcheck]
  · rfl

/-- Of a single line the findings are those about it as a text, moved down to its place. -/
theorem findingsOn_singleton {line : Text} (h : '\n' ∉ line) (config : Config) (n : Nat) :
    findingsOn config n [line] = (checkExpressions config line).map (Diagnostic.down n) := by
  rw [checkExpressions_eq_findingsOn, Text.lines_eq_singleton h, ← findingsOn_add, Nat.zero_add]

theorem line_lt_of_mem_checkExpressions {text : Text} {d : Diagnostic}
    (ht : (Text.lines text).length ≤ UInt32.size) (h : d ∈ checkExpressions config text) :
    d.range.start.line.toNat < (Text.lines text).length ∧
      d.range.stop.line = d.range.start.line := by
  obtain ⟨ls, hls, hrange⟩ := exists_map_range_checkExpressions config text
  have hmem := List.mem_map_of_mem (f := (·.range)) h
  rw [hrange] at hmem
  obtain ⟨⟨i, p⟩, hl, heq⟩ := List.mem_map.mp hmem
  obtain ⟨line, hline, -⟩ := Expression.mem_linePairs.mp (hls.subset hl)
  have hi := (List.getElem?_eq_some_iff.mp hline).1
  rw [← heq]
  refine ⟨?_, rfl⟩
  rw [Expression.spanOf, Position.toNat_line_ofNat (by omega)]
  exact hi

/-- How the findings about the expressions of a text come from its lines. -/
structure LineLocal (config : Config) : Prop where
  /-- A text that a line feed cuts has the findings of the first part, and those of the second part
  moved down by the lines of the first. -/
  append : ∀ a b, checkExpressions config (a ++ '\n' :: b) =
    checkExpressions config a ++
      (checkExpressions config b).map (Diagnostic.down (Text.lines a).length)
  /-- As long as words count the lines, moving down adds the number of lines to both ends. -/
  counted : ∀ a b, (Text.lines (a ++ '\n' :: b)).length ≤ UInt32.size →
    ∀ d ∈ checkExpressions config b,
      (d.down (Text.lines a).length).range.start.line.toNat =
          d.range.start.line.toNat + (Text.lines a).length ∧
        (d.down (Text.lines a).length).range.stop.line.toNat =
          d.range.stop.line.toNat + (Text.lines a).length
  /-- A line has its own findings, at its place.  The lines before it and after it have theirs,
  whatever it says. -/
  written : ∀ text before line after, Text.lines text = before ++ line :: after →
    checkExpressions config text = findingsOn config 0 before ++
      (checkExpressions config line).map (Diagnostic.down before.length) ++
        (findingsOn config before.length after).map (Diagnostic.down 1)
  /-- Without the line the findings after it stand one line higher, and no others change. -/
  removed : ∀ text before after, Text.lines text = before ++ after →
    checkExpressions config text =
      findingsOn config 0 before ++ findingsOn config before.length after

/-- **Every finding about an expression is about one line**, whatever stands on the other lines. -/
theorem checkExpressions_lineLocal (config : Config) : LineLocal config where
  append a b := by
    simp only [checkExpressions_eq_findingsOn, Text.lines_append_cons, findingsOn_append,
      findingsOn_add]
  counted a b h d hd := by
    rw [Text.lines_append_cons, List.length_append] at h
    obtain ⟨hstart, hstop⟩ := line_lt_of_mem_checkExpressions (by omega) hd
    refine ⟨Position.toNat_line_down (by omega), Position.toNat_line_down ?_⟩
    rw [hstop]
    omega
  written text before line after h := by
    have hline : '\n' ∉ line := Text.not_mem_of_mem_lines (t := text) (h ▸ List.mem_append_cons_self)
    rw [checkExpressions_eq_findingsOn, h, ← List.singleton_append (x := line),
      findingsOn_append, findingsOn_append, findingsOn_singleton hline, ← findingsOn_add,
      Nat.zero_add, List.length_singleton, List.append_assoc]
  removed text before after h := by
    rw [checkExpressions_eq_findingsOn, h, findingsOn_append, Nat.zero_add]

/-- An opening marker that is left open on the first line takes nothing from the second one. -/
example : (checkExpressions {} "a: \x7b\x7b x +\nb: \x7b\x7b y + \x7d\x7d".toList).map (·.range) =
    [⟨⟨1, 3⟩, ⟨1, 12⟩⟩] := by
  decide

end Validation
end GraphLint
