import GraphLint.Proofs.Expression.Context
import GraphLint.Proofs.Text.Lines
import GraphLint.Validation
/-! # Where a finding about the form stands

The form of a text is judged on the neutralised text, and the line that the judgement names is
looked up in the text itself.  The two texts need not have the same lines: a pair may run over
several lines, and the literal that stands for it has no line feed.  So neutralising moves every
character up by the line feeds in the pairs before it (`lineAt_neutral_add_swallowed`), and a
finding stands where it belongs exactly if there are none (`formLines`). -/
namespace GraphLint

namespace Text

theorem length_lines (t : Text) : (lines t).length = t.count '\n' + 1 := by
  induction t using linesInduction with
  | single line h => rw [lines_eq_singleton h, List.count_eq_zero_of_not_mem h, List.length_singleton]
  | cons line rest h ih =>
    rw [lines_append_cons_of_not_mem h, List.length_cons, ih, List.count_append,
      List.count_eq_zero_of_not_mem h, List.count_cons_self, Nat.zero_add]

/-- The number of the line of the character that has `n` characters before it. -/
def lineAt (t : Text) (n : Nat) : Nat := (lines (t.take n)).length - 1

theorem lineAt_length_append (s t : Text) : lineAt (s ++ t) s.length = s.count '\n' := by
  rw [lineAt, List.take_left, length_lines, Nat.add_sub_cancel]

end Text

namespace Expression
variable {text : Text} {segs : List Segment}

/-! ## What neutralising does to the lines -/

/-- What a segment becomes when the text is neutralised. -/
def Segment.neutral : Segment → Text
  | .plain c => [c]
  | .pair _ => placeholder

/-- How many line feeds are lost with a segment. -/
def Segment.swallowed : Segment → Nat
  | .plain _ => 0
  | .pair body => body.count '\n'

/-- The characters of segments. -/
def spelled (segs : List Segment) : Text := segs.flatMap Segment.text

/-- The characters of segments when they are neutralised. -/
def neutral (segs : List Segment) : Text := segs.flatMap Segment.neutral

/-- How many line feeds the pairs among segments hold. -/
def swallowed : List Segment → Nat
  | [] => 0
  | seg :: segs => seg.swallowed + swallowed segs

theorem neutralise_eq_neutral (text : Text) : neutralise text = neutral (segments text) := by
  rw [neutralise, replacePairs, neutral]
  congr 1

theorem Segment.swallowed_eq_zero_iff {seg : Segment} :
    seg.swallowed = 0 ↔ ∀ body, seg = .pair body → '\n' ∉ body := by
  cases seg with
  | plain c => exact iff_of_true rfl nofun
  | pair body =>
    rw [swallowed, List.count_eq_zero]
    constructor
    · rintro h _ ⟨⟩
      exact h
    · intro h
      exact h body rfl

theorem swallowed_eq_zero_iff :
    swallowed segs = 0 ↔ ∀ body, Segment.pair body ∈ segs → '\n' ∉ body := by
  induction segs with
  | nil => exact iff_of_true rfl nofun
  | cons seg segs ih =>
    rw [swallowed, Nat.add_eq_zero_iff, Segment.swallowed_eq_zero_iff, ih]
    constructor
    · rintro ⟨hhead, hrest⟩ body hbody
      rcases List.mem_cons.mp hbody with h | h
      · exact hhead body h.symm
      · exact hrest body h
    · intro h
      exact ⟨fun body hbody => h body (hbody ▸ List.mem_cons_self),
        fun body hbody => h body (List.mem_cons_of_mem _ hbody)⟩

/-- **Neutralising loses the line feeds in the pairs**, and no other ones. -/
theorem count_neutral_add_swallowed (segs : List Segment) :
    (neutral segs).count '\n' + swallowed segs = (spelled segs).count '\n' := by
  induction segs with
  | nil => rfl
  | cons seg segs ih =>
    have hseg : seg.neutral.count '\n' + seg.swallowed = seg.text.count '\n' := by
      cases seg with
      | plain c => rfl
      | pair body =>
        rw [Segment.text, List.count_append, List.count_append]
        rfl
    simp only [neutral, spelled, swallowed, List.flatMap_cons, List.count_append] at ih ⊢
    omega

/-- A character outside the pairs is kept, with what stands before it and behind it neutralised. -/
theorem eq_append_of_segments_eq {before after : List Segment} {c : Char}
    (h : segments text = before ++ .plain c :: after) :
    text = spelled before ++ c :: spelled after ∧
      neutralise text = neutral before ++ c :: neutral after := by
  constructor
  · rw [← flatMap_text_segments text, h, List.flatMap_append, List.flatMap_cons]
    rfl
  · rw [neutralise_eq_neutral, h, neutral, List.flatMap_append, List.flatMap_cons]
    rfl

/-- **A character outside the pairs is moved up** by the line feeds in the pairs before it. -/
theorem lineAt_neutral_add_swallowed {before after : List Segment} {c : Char}
    (h : segments text = before ++ .plain c :: after) :
    Text.lineAt (neutralise text) (neutral before).length + swallowed before =
      Text.lineAt text (spelled before).length := by
  obtain ⟨htext, hneutral⟩ := eq_append_of_segments_eq h
  have hline : Text.lineAt text (spelled before).length = (spelled before).count '\n' := by
    rw [congrArg Text.lineAt htext]
    exact Text.lineAt_length_append _ _
  rw [hneutral, Text.lineAt_length_append, hline]
  exact count_neutral_add_swallowed before

end Expression

namespace Validation
open Expression

/-- How the lines of a text and of the neutralised text compare, and where that leaves the finding
about the form. -/
structure FormLines (verdict : Verdict) (text : Text) : Prop where
  /-- The neutralised text has fewer lines, by the line feeds in the pairs. -/
  lost : (Text.lines (neutralise text)).length + swallowed (segments text) =
    (Text.lines text).length
  /-- A character outside the pairs stands in both texts, and in the neutralised one higher up by
  the line feeds in the pairs before it. -/
  moved : ∀ before c after, segments text = before ++ .plain c :: after →
    text = spelled before ++ c :: spelled after ∧
      neutralise text = neutral before ++ c :: neutral after ∧
      Text.lineAt (neutralise text) (neutral before).length + swallowed before =
        Text.lineAt text (spelled before).length
  /-- The finding covers the line of the text that has the number of the bad line of the neutralised
  text.  A character of the bad line stands there exactly if no pair before it holds a line feed. -/
  finding : ∀ e, verdict (neutralise text) = .error e →
    ∃ d, checkForm verdict text = [d] ∧ d.range = .fullLine text e.line ∧
      ∀ before c after, segments text = before ++ .plain c :: after →
        Text.lineAt (neutralise text) (neutral before).length = e.line.toNat →
          (Text.lineAt text (spelled before).length = d.range.start.line.toNat ↔
            ∀ body, Segment.pair body ∈ before → '\n' ∉ body)

/-- **A finding about the form stands on the line it is about exactly if no pair before it holds a
line feed**, whatever the judgement on the form is. -/
theorem formLines (verdict : Verdict) (text : Text) : FormLines verdict text where
  lost := by
    rw [Text.length_lines, Text.length_lines, neutralise_eq_neutral]
    have hcount := count_neutral_add_swallowed (segments text)
    rw [spelled, flatMap_text_segments] at hcount
    omega
  moved before c after h := by
    obtain ⟨htext, hneutral⟩ := eq_append_of_segments_eq h
    exact ⟨htext, hneutral, lineAt_neutral_add_swallowed h⟩
  finding e he := by
    refine ⟨_, by rw [checkForm, he], rfl, fun before c after h hline => ?_⟩
    have hmoved := lineAt_neutral_add_swallowed h
    have hstart : (Range.fullLine text e.line).start.line = e.line := rfl
    change Text.lineAt text (spelled before).length = (Range.fullLine text e.line).start.line.toNat ↔ _
    rw [hstart, ← hmoved, hline, Nat.add_eq_left]
    exact swallowed_eq_zero_iff

/-- An expression on two lines, and after it a line that is indented too much. -/
def brokenPair : Text := "a: \x7b\x7b x\n\x7d\x7d\nb: 1\n  c: 2\n".toList

/-- The finding about the last line stands on the one before it: that is the line of the text with
the number which the last line has in the neutralised text. -/
theorem formLines_brokenPair :
    (Text.lines (neutralise brokenPair)).length + 1 = (Text.lines brokenPair).length ∧
      (checkForm Yaml.check brokenPair).map (·.range) = [⟨⟨2, 0⟩, ⟨2, 4⟩⟩] ∧
      (Text.lines (neutralise brokenPair))[2]? = some "  c: 2".toList ∧
      (Text.lines brokenPair)[2]? = some "b: 1".toList ∧
      (Text.lines brokenPair)[3]? = some "  c: 2".toList := by
  decide +kernel

end Validation
end GraphLint
