import GraphLint.Expression.Marker
import Mathlib.Data.List.TakeDrop
import Mathlib.Data.List.TakeWhile
/-! # The cut of a text into segments

A marker pair is found exactly where the text goes on with one (`pairBody?_eq_some_iff`), and the
cut skips what it has found, so it satisfies three equations: nothing is left of an empty text, a
character at which no pair starts stands for itself, and a pair is followed by the cut of what
comes after it.  `segmentsInduction` is induction along these equations, and the first fact that
follows from it is that the segments spell the text back. -/
namespace GraphLint.Expression

/-! ## Where a pair starts -/

theorem Segment.text_pair (body : Text) :
    (Segment.pair body).text = '{' :: '{' :: (body ++ closeMarker) := rfl

@[simp] theorem Segment.length_text_pair (body : Text) :
    (Segment.pair body).text.length = body.length + 4 := by
  simp [Segment.text_pair, closeMarker]

/-- An opening marker in a text that ends in a closing one stands before that. -/
theorem exists_eq_append_closeMarker {s u v : Text} (h : s ++ closeMarker = u ++ openMarker ++ v) :
    ∃ x, v = x ++ closeMarker ∧ s = u ++ openMarker ++ x := by
  rcases List.append_eq_append_iff.mp h with ⟨x, hx, hclose⟩ | ⟨x, hx, hv⟩
  · -- the opening marker would end inside the closing one
    rcases List.eq_nil_or_concat x with rfl | ⟨y, c, rfl⟩
    · exact ⟨[], hclose.symm, by rw [hx]; simp⟩
    · have hlast : (u ++ ['{']) ++ ['{'] = (s ++ y) ++ [c] := by
        rw [List.concat_eq_append] at hx
        rw [List.append_assoc u, List.append_assoc s]
        exact hx
      have hc : ['{'] = [c] := List.append_inj_right' hlast rfl
      have hmem : c ∈ closeMarker := by rw [hclose]; simp
      rw [← List.singleton_inj.mp hc] at hmem
      exact absurd hmem (by decide)
  · exact ⟨x, hv, hx⟩

/-- The characters up to the first `}` of a text that goes on with a body and a closing marker are
that body. -/
private theorem span_close {body : Text} (hb : '}' ∉ body) (rest : Text) :
    (body ++ '}' :: rest).span (· != '}') = (body, '}' :: rest) := by
  have hall : ∀ c ∈ body, (c != '}') = true := fun c hc => by
    simpa using fun he : c = '}' => hb (he ▸ hc)
  rw [List.span_eq_takeWhile_dropWhile, List.takeWhile_append_of_pos hall,
    List.dropWhile_append_of_pos hall]
  simp

/-- **A pair is found exactly where the text goes on with one.**  Its body holds no `}`, so it is
determined by the text. -/
theorem pairBody?_eq_some_iff {text body : Text} :
    pairBody? text = some body ↔ '}' ∉ body ∧ (Segment.pair body).text <+: text := by
  constructor
  · intro h
    unfold pairBody? at h
    split at h
    · rename_i rest
      split at h
      · rename_i found tail hspan
        obtain rfl : found = body := Option.some.inj h
        rw [List.span_eq_takeWhile_dropWhile] at hspan
        obtain ⟨htake, hdrop⟩ := Prod.mk.inj hspan
        have hrest : rest = found ++ '}' :: '}' :: tail := by
          rw [← htake, ← hdrop, List.takeWhile_append_dropWhile]
        refine ⟨fun hmem => ?_, tail, by simp [Segment.text_pair, closeMarker, hrest]⟩
        rw [← htake] at hmem
        simpa using List.mem_takeWhile_imp hmem
      · cases h
    · cases h
  · rintro ⟨hb, tail, rfl⟩
    have hspan := span_close hb ('}' :: tail)
    simp only [Segment.text_pair, closeMarker, List.cons_append, List.append_assoc,
      List.nil_append, pairBody?]
    rw [hspan]
    rfl

theorem pairBody?_text_append {body : Text} (hb : '}' ∉ body) (rest : Text) :
    pairBody? ((Segment.pair body).text ++ rest) = some body :=
  pairBody?_eq_some_iff.mpr ⟨hb, List.prefix_append ..⟩

/-- No pair starts a text when none starts a longer one. -/
theorem pairBody?_eq_none_of_append {text rest : Text} (h : pairBody? (text ++ rest) = none) :
    pairBody? text = none := by
  cases hp : pairBody? text with
  | none => rfl
  | some body =>
    obtain ⟨hb, hpre⟩ := pairBody?_eq_some_iff.mp hp
    have := pairBody?_eq_some_iff.mpr ⟨hb, hpre.trans (List.prefix_append text rest)⟩
    rw [h] at this
    cases this

/-- A character that is no closing brace ends no pair. -/
theorem pairBody?_concat_eq_none {s : Text} {c : Char} (hc : c ≠ '}') (h : pairBody? s = none) :
    pairBody? (s ++ [c]) = none := by
  cases hp : pairBody? (s ++ [c]) with
  | none => rfl
  | some body =>
    obtain ⟨hb, hpre⟩ := pairBody?_eq_some_iff.mp hp
    rcases List.prefix_concat_iff.mp hpre with heq | hpre
    · have hbrace : (Segment.pair body).text = (openMarker ++ body ++ ['}']) ++ ['}'] := by
        simp [Segment.text, closeMarker]
      rw [hbrace] at heq
      exact absurd (List.singleton_inj.mp (List.append_inj_right' heq rfl)).symm hc
    · rw [pairBody?_eq_some_iff.mpr ⟨hb, hpre⟩] at h
      cases h

/-! ## The equations of the cut -/

theorem segmentsAfter_eq_drop (skip : Nat) (text : Text) :
    segmentsAfter skip text = segments (text.drop skip) := by
  induction text generalizing skip with
  | nil => simp [segments, segmentsAfter]
  | cons c rest ih =>
    cases skip with
    | zero => rfl
    | succ skip => rw [segmentsAfter, ih, List.drop_succ_cons]

@[simp] theorem segments_nil : segments [] = [] := rfl

theorem segments_cons {c : Char} {rest : Text} (h : pairBody? (c :: rest) = none) :
    segments (c :: rest) = .plain c :: segments rest := by
  rw [segments, segmentsAfter, h]
  rfl

theorem segments_pair {body : Text} (hb : '}' ∉ body) (rest : Text) :
    segments ((Segment.pair body).text ++ rest) = .pair body :: segments rest := by
  have h := pairBody?_text_append hb rest
  rw [Segment.text_pair, List.cons_append] at h
  rw [segments, Segment.text_pair, List.cons_append, segmentsAfter, h]
  simp only [segmentsAfter_eq_drop]
  rw [List.drop_left' (by simp [closeMarker])]

/-- **Induction along the cut of a text**: a text is empty, or it starts with a character at which
no pair starts, or it starts with a pair. -/
theorem segmentsInduction {motive : Text → Prop} (nil : motive [])
    (plain : ∀ c rest, pairBody? (c :: rest) = none → motive rest → motive (c :: rest))
    (pair : ∀ body rest, '}' ∉ body → motive rest → motive ((Segment.pair body).text ++ rest))
    (text : Text) : motive text := by
  induction hn : text.length using Nat.strongRecOn generalizing text with
  | ind n ih =>
    cases text with
    | nil => exact nil
    | cons c rest =>
      cases hp : pairBody? (c :: rest) with
      | none =>
        exact plain c rest hp (ih rest.length (by rw [← hn, List.length_cons]; omega) rest rfl)
      | some body =>
        obtain ⟨hb, tail, htail⟩ := pairBody?_eq_some_iff.mp hp
        have hlen := congrArg List.length htail
        rw [List.length_append, Segment.length_text_pair, hn] at hlen
        rw [← htail]
        exact pair body tail hb (ih tail.length (by omega) tail rfl)

/-! ## What the segments say about the text -/

/-- **The segments of a text spell it back.** -/
theorem flatMap_text_segments (text : Text) : (segments text).flatMap Segment.text = text := by
  induction text using segmentsInduction with
  | nil => rfl
  | plain c rest h ih => rw [segments_cons h, List.flatMap_cons, ih]; rfl
  | pair body rest hb ih => rw [segments_pair hb, List.flatMap_cons, ih]

end GraphLint.Expression
