import GraphLint.Proofs.Expression.Context
import GraphLint.Proofs.Expression.Pairs
import GraphLint.Yaml.Verdict
/-! # What stands around the pairs

A text is what stands before its first pair, and its pairs, each with what stands behind it up to
the next one: its `Layout`.  Neutralising keeps the gaps between the pairs and forgets the bodies
(`replacePairs_eq_layout`), so what becomes of a text is decided by its gaps alone, provided that
other bodies do not move the pairs.

They do not (`layout_withBodies`).  A pair could begin earlier only at an opening brace of a gap,
and it would have to close at the first closing brace after it.  If a gap brings that brace, the
same pair is there with the old bodies; if it is the first closing brace of a pair, then the old
pair closes it as well (`Refilled.exists_closed`).  Either way the cut would have found it before.
-/
namespace GraphLint.Expression

/-- The parts of a text: its marker pairs, and the gaps around them. -/
structure Layout where
  /-- What stands before the first pair. -/
  lead : Text
  /-- The body of each pair, and what stands behind the pair up to the next one. -/
  rest : List (Text × Text)
  deriving DecidableEq, Repr

namespace Layout

/-- The text with these parts. -/
def text (l : Layout) : Text := l.lead ++ l.rest.flatMap fun r => (Segment.pair r.1).text ++ r.2

/-- The bodies of the pairs. -/
def bodies (l : Layout) : List Text := l.rest.map (·.1)

/-- What stands behind each pair. -/
def gaps (l : Layout) : List Text := l.rest.map (·.2)

/-- The same gaps around pairs with other bodies. -/
def withBodies (l : Layout) (ws : List Text) : Layout := ⟨l.lead, ws.zip l.gaps⟩

@[simp] theorem gaps_cons (lead : Text) (r : Text × Text) (rest : List (Text × Text)) :
    (⟨lead, r :: rest⟩ : Layout).gaps = r.2 :: (⟨lead, rest⟩ : Layout).gaps := rfl

/-- The parts that segments make up. -/
def ofSegments : List Segment → Layout
  | [] => ⟨[], []⟩
  | .plain c :: rest => ⟨c :: (ofSegments rest).lead, (ofSegments rest).rest⟩
  | .pair body :: rest => ⟨[], (body, (ofSegments rest).lead) :: (ofSegments rest).rest⟩

end Layout

/-- The parts of a text as the cut finds them. -/
def layout (t : Text) : Layout := .ofSegments (segments t)

variable {s t rest : Text} {c : Char} {body : Text} {ws : List Text}

@[simp] theorem layout_nil : layout [] = ⟨[], []⟩ := rfl

theorem layout_cons (h : pairBody? (c :: rest) = none) :
    layout (c :: rest) = ⟨c :: (layout rest).lead, (layout rest).rest⟩ := by
  rw [layout, segments_cons h, Layout.ofSegments]
  rfl

theorem layout_pair (hb : '}' ∉ body) (rest : Text) :
    layout ((Segment.pair body).text ++ rest) =
      ⟨[], (body, (layout rest).lead) :: (layout rest).rest⟩ := by
  rw [layout, segments_pair hb, Layout.ofSegments]
  rfl

/-- The parts of a text spell it back. -/
theorem text_layout (t : Text) : (layout t).text = t := by
  induction t using segmentsInduction with
  | nil => rfl
  | plain c rest h ih =>
    rw [layout_cons h]
    exact congrArg (c :: ·) ih
  | pair body rest hb ih =>
    rw [layout_pair hb, Layout.text, List.nil_append, List.flatMap_cons, List.append_assoc]
    exact congrArg ((Segment.pair body).text ++ ·) ih

/-- The pairs of a layout are those that the cut finds. -/
theorem bodies_layout (t : Text) : (layout t).bodies = (pairs t).map (·.body) := by
  induction t using segmentsInduction with
  | nil => rfl
  | plain c rest h ih =>
    rw [layout_cons h, pairs_cons h, List.map_map]
    exact ih
  | pair body rest hb ih =>
    rw [layout_pair hb, pairs_pair hb, List.map_cons, List.map_map]
    exact congrArg (body :: ·) ih

/-- **Replacing pairs keeps the gaps and forgets the bodies.** -/
theorem replacePairs_eq_layout (replacement t : Text) :
    replacePairs replacement t =
      (layout t).lead ++ (layout t).gaps.flatMap fun gap => replacement ++ gap := by
  induction t using segmentsInduction with
  | nil => rfl
  | plain c rest h ih =>
    rw [replacePairs_cons h, layout_cons h, ih]
    rfl
  | pair body rest hb ih =>
    rw [replacePairs_pair hb, layout_pair hb, ih, List.nil_append, Layout.gaps_cons,
      List.flatMap_cons, List.append_assoc]
    rfl

/-! ## Other bodies -/

/-- The second text is the first one with other bodies in the pairs that the cut finds. -/
inductive Refilled : Text → Text → Prop
  | nil : Refilled [] []
  | plain {c : Char} {s t : Text} (hc : pairBody? (c :: s) = none) (h : Refilled s t) :
      Refilled (c :: s) (c :: t)
  | pair {body w s t : Text} (hb : '}' ∉ body) (hw : '}' ∉ w) (h : Refilled s t) :
      Refilled ((Segment.pair body).text ++ s) ((Segment.pair w).text ++ t)

namespace Refilled

theorem head?_eq (h : Refilled s t) : t.head? = s.head? := by
  cases h <;> rfl

/-- What is closed with other bodies is closed without them: a pair brings its first closing brace
whatever its body is. -/
theorem exists_closed (h : Refilled s t) {u : Text} (hu : '}' ∉ u)
    (hpre : u ++ closeMarker <+: t) : ∃ v, '}' ∉ v ∧ v ++ closeMarker <+: s := by
  induction h generalizing u with
  | nil =>
    have hnil := List.prefix_nil.mp hpre
    simp [closeMarker] at hnil
  | @plain c s t _ h ih =>
    cases u with
    | nil =>
      obtain ⟨rfl, tail, rfl⟩ := List.cons_prefix_cons.mp hpre
      obtain ⟨rest, rfl⟩ := List.head?_eq_some_iff.mp h.head?_eq.symm
      exact ⟨[], List.not_mem_nil, rest, rfl⟩
    | cons d u =>
      obtain ⟨rfl, htail⟩ := List.cons_prefix_cons.mp hpre
      obtain ⟨hd, hu⟩ := not_or.mp (mt List.mem_cons.mpr hu)
      obtain ⟨v, hv, hclose⟩ := ih hu htail
      exact ⟨d :: v, mt List.mem_cons.mp (not_or.mpr ⟨hd, hv⟩),
        List.cons_prefix_cons.mpr ⟨rfl, hclose⟩⟩
  | @pair body w s t hb _ _ _ => exact ⟨openMarker ++ body, by simpa [openMarker] using hb, s, rfl⟩

/-- Where no pair starts, none starts with other bodies behind it. -/
theorem pairBody?_eq_none (h : Refilled s t) (hc : pairBody? (c :: s) = none) :
    pairBody? (c :: t) = none := by
  cases hp : pairBody? (c :: t) with
  | none => rfl
  | some w =>
    obtain ⟨hw, tail, htail⟩ := pairBody?_eq_some_iff.mp hp
    obtain ⟨rfl, ht⟩ := List.cons.inj htail
    -- the pair of the new text starts at two braces; the second one starts a gap or a pair
    cases h with
    | nil => cases ht
    | plain _ h =>
      obtain ⟨rfl, hrest⟩ := List.cons.inj ht
      obtain ⟨v, hv, rest, rfl⟩ := h.exists_closed hw ⟨tail, hrest⟩
      have hpair := pairBody?_text_append hv rest
      rw [Segment.text_pair, List.cons_append, List.cons_append, hc] at hpair
      cases hpair
    | @pair body _ s _ hb =>
      have hbrace : '}' ∉ '{' :: body := by simpa using hb
      have hpair := pairBody?_text_append hbrace s
      rw [show (Segment.pair ('{' :: body)).text ++ s = '{' :: ((Segment.pair body).text ++ s)
        from rfl, hc] at hpair
      cases hpair

end Refilled

/-- **Other bodies do not move the pairs**: the cut finds them where the old ones stood. -/
theorem layout_withBodies (t : Text) (hlen : ws.length = (layout t).rest.length)
    (hws : ∀ w ∈ ws, '}' ∉ w) : Refilled t ((layout t).withBodies ws).text ∧
      layout ((layout t).withBodies ws).text = (layout t).withBodies ws := by
  induction t using segmentsInduction generalizing ws with
  | nil =>
    rw [layout_nil, Layout.withBodies, Layout.gaps, List.map_nil, List.zip_nil_right]
    exact ⟨.nil, rfl⟩
  | plain c rest hc ih =>
    rw [layout_cons hc] at hlen ⊢
    obtain ⟨hfill, hlayout⟩ := ih hlen hws
    refine ⟨.plain hc hfill, ?_⟩
    refine (layout_cons (hfill.pairBody?_eq_none hc)).trans ?_
    rw [hlayout]
    rfl
  | pair body rest hb ih =>
    rw [layout_pair hb] at hlen ⊢
    cases ws with
    | nil => cases hlen
    | cons w ws =>
      obtain ⟨hw, hws⟩ := List.forall_mem_cons.mp hws
      obtain ⟨hfill, hlayout⟩ := ih (Nat.succ.inj hlen) hws
      have htext : (Layout.withBodies ⟨[], (body, (layout rest).lead) :: (layout rest).rest⟩
          (w :: ws)).text = (Segment.pair w).text ++ ((layout rest).withBodies ws).text := by
        simp [Layout.text, Layout.withBodies, Layout.gaps]
      rw [htext, layout_pair hw, hlayout]
      exact ⟨.pair hb hw hfill, rfl⟩

/-- **Expressions do not reach the YAML stage.**  With any other bodies in its pairs a text has
pairs in the same places, so it is neutralised to the same text, and the verdict on that text, with
the message and the line of a failure, is the same. -/
theorem check_neutralise_withBodies (t : Text) (ws : List Text)
    (hlen : ws.length = (pairs t).length) (hws : ∀ w ∈ ws, '}' ∉ w) :
    (layout t).text = t ∧ (layout t).bodies = (pairs t).map (·.body) ∧
      layout ((layout t).withBodies ws).text = (layout t).withBodies ws ∧
      neutralise ((layout t).withBodies ws).text = neutralise t ∧
      Yaml.check (neutralise ((layout t).withBodies ws).text) = Yaml.check (neutralise t) := by
  have hrest : ws.length = (layout t).rest.length := by
    have := congrArg List.length (bodies_layout t)
    rw [Layout.bodies, List.length_map, List.length_map] at this
    rw [hlen, this]
  obtain ⟨_, hlayout⟩ := layout_withBodies t hrest hws
  have hgaps : ((layout t).withBodies ws).gaps = (layout t).gaps := by
    have hle : (layout t).gaps.length ≤ ws.length := by
      rw [Layout.gaps, List.length_map, hrest]
    exact List.map_snd_zip hle
  have hneutral : neutralise ((layout t).withBodies ws).text = neutralise t := by
    rw [neutralise, neutralise, replacePairs_eq_layout, replacePairs_eq_layout, hlayout, hgaps]
    rfl
  exact ⟨text_layout t, bodies_layout t, hlayout, hneutral, congrArg Yaml.check hneutral⟩

/-- A text with stray braces before, between and behind its pairs, one of which runs over two
lines. -/
def strayBraces : Text :=
  "\x7b\x7d \x7b\x7b a \x7d\x7d\x7d: \x7b \x7b\x7b\n\x7b\x7b b \x7d\x7d\n\x7d \x7b\x7b".toList

/-- No body at all, and one with opening markers, a quote, a line feed and a colon. -/
def otherBodies : List Text := [[], "\x7b\x7b\x7b'\n: ".toList]

theorem check_neutralise_withBodies_strayBraces :
    otherBodies.length = (pairs strayBraces).length ∧ (∀ w ∈ otherBodies, '}' ∉ w) ∧
      ((layout strayBraces).withBodies otherBodies).text =
        "\x7b\x7d \x7b\x7b\x7d\x7d\x7d: \x7b ".toList ++
          "\x7b\x7b\x7b\x7b\x7b'\n: \x7d\x7d\n\x7d \x7b\x7b".toList ∧
      Yaml.check (neutralise ((layout strayBraces).withBodies otherBodies).text) =
        Yaml.check (neutralise strayBraces) := by
  have hlen : otherBodies.length = (pairs strayBraces).length := by decide
  have hws : ∀ w ∈ otherBodies, '}' ∉ w := by decide
  obtain ⟨_, _, _, _, hcheck⟩ := check_neutralise_withBodies strayBraces otherBodies hlen hws
  exact ⟨hlen, hws, by decide, hcheck⟩

end GraphLint.Expression
