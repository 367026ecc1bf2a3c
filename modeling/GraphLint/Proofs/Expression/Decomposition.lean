import GraphLint.Proofs.Expression.Hidden
import GraphLint.Proofs.Expression.Scanner
/-! # A text as stretches and literals

A text is put together from stretches without quotes, with a closed literal between each and the
next, and at the end there may be a literal that is left open.  Every text can be taken apart so,
and in one way only: a stretch goes on up to the first quote (`Stretch.append_inj`), and that quote
says with which quote the literal behind it ends (`Literal.append_inj`).  So equal texts have equal
first stretches and equal first literals, and then the rests are equal
(`Decomposition.text_injective`).  A way to take a text apart can be read off the reading that the
scan follows (`Outside.exists_decomposition`), and as there is no other, the stretches are what the
scan and so the calls of a scanner yield. -/
namespace GraphLint.Expression
variable {s t u v w : Text}

/-- A stretch of a text: no quote stands in it. -/
@[ext] structure Stretch where
  text : Text
  markFree : ∀ kind : QuoteKind, kind.mark ∉ text

/-- A literal, closed or not: its quote does not stand in it, the other one may. -/
@[ext] structure Literal where
  kind : QuoteKind
  content : Text
  fits : kind.mark ∉ content

namespace Literal

/-- The literal between its quotes. -/
def closed (l : Literal) : Text := l.kind.literal l.content

/-- The literal behind its first quote, without a second one. -/
def opened (l : Literal) : Text := l.kind.mark :: l.content

end Literal

/-- The text of literals, each with the stretch behind it, and of what is left open at the end. -/
def partsText (parts : List (Literal × Stretch)) (tail : Option Literal) : Text :=
  parts.flatMap (fun p => p.1.closed ++ p.2.text) ++ (tail.map Literal.opened).getD []

/-- Stretches with literals between them, and the literal that is left open at the end, if any. -/
@[ext] structure Decomposition where
  first : Stretch
  /-- The literals, each with the stretch behind it. -/
  parts : List (Literal × Stretch)
  tail : Option Literal

namespace Decomposition

/-- The text that is put together. -/
def text (d : Decomposition) : Text := d.first.text ++ partsText d.parts d.tail

/-- The stretches, one after the other. -/
def outside (d : Decomposition) : Text := d.first.text ++ d.parts.flatMap (·.2.text)

end Decomposition

/-- What a scanner that is new makes of a text. -/
structure IsRealised (t : Text) : Prop where
  /-- There is one way to take the text apart. -/
  decomposes : ∃! d : Decomposition, d.text = t
  /-- The calls yield the stretches, all of them and in order. -/
  yielded : ∀ d : Decomposition, d.text = t → (Scanner.ofText t).drain.1 = d.outside
  /-- The scanner has then read the text, and what is open is the literal at the end, if any. -/
  left : ∀ d : Decomposition, d.text = t → (Scanner.ofText t).drain.2.rest = [] ∧
    (Scanner.ofText t).drain.2.flags.open? = d.tail.map (·.kind)
  /-- That is what the checks of a body see of it. -/
  checked : (Scanner.ofText t).drain.1 = unquoted t ∧
    (Scanner.ofText t).drain.2.flags.open? = openQuote t
  /-- Between two calls, and within one, at most one of the flags is set. -/
  exclusive : ∀ s, Scanner.Reachable t s → s.flags.IsExclusive ∧ Scanner.Reachable t s.next.2
  /-- No literal is open right after a character is yielded. -/
  settled : ∀ s c after, Scanner.Reachable t s → s.next = (some c, after) →
    after.flags.open? = none
  /-- The text may as well be scanned in two parts, whatever is open before it. -/
  resumed : ∀ (flags : Flags) (s₁ s₂ : Text), t = s₁ ++ s₂ →
    (Scanner.mk t flags).drain =
      ((Scanner.mk s₁ flags).drain.1 ++
          (Scanner.mk s₂ (Scanner.mk s₁ flags).drain.2.flags).drain.1,
        (Scanner.mk s₂ (Scanner.mk s₁ flags).drain.2.flags).drain.2)

/-! ## One way at most -/

theorem QuoteKind.mark_injective : Function.Injective QuoteKind.mark := by
  intro a b h
  cases a with
  | single =>
    cases b with
    | single => rfl
    | double => exact absurd h (by decide)
  | double =>
    cases b with
    | single => exact absurd h (by decide)
    | double => rfl

section Border
variable {P : Char → Prop}

theorem eq_nil_of_border (hw : ∀ c ∈ w, ¬ P c) (hs : ∀ c ∈ (w ++ t).head?, P c) : w = [] := by
  cases w with
  | nil => rfl
  | cons c w => exact absurd (hs c rfl) (hw c List.mem_cons_self)

/-- Where a text first has a character of some kind, it can be cut in one way only. -/
theorem append_inj_of_border (hu : ∀ c ∈ u, ¬ P c) (hv : ∀ c ∈ v, ¬ P c)
    (hs : ∀ c ∈ s.head?, P c) (ht : ∀ c ∈ t.head?, P c) (h : u ++ s = v ++ t) :
    u = v ∧ s = t := by
  rcases List.append_eq_append_iff.mp h with ⟨w, rfl, rfl⟩ | ⟨w, rfl, rfl⟩
  · obtain rfl := eq_nil_of_border (fun c hc => hv c (List.mem_append_right u hc)) hs
    exact ⟨(List.append_nil u).symm, rfl⟩
  · obtain rfl := eq_nil_of_border (fun c hc => hu c (List.mem_append_right v hc)) ht
    exact ⟨List.append_nil v, rfl⟩

end Border

/-- What can follow a stretch: nothing, or a quote. -/
def BeginsWithMark (t : Text) : Prop := ∀ c ∈ t.head?, ∃ kind : QuoteKind, c = kind.mark

/-- **A stretch ends at the first quote.** -/
theorem Stretch.append_inj (x y : Stretch) (hs : BeginsWithMark s) (ht : BeginsWithMark t)
    (h : x.text ++ s = y.text ++ t) : x = y ∧ s = t := by
  have hfree : ∀ z : Stretch, ∀ c ∈ z.text, ¬ ∃ kind : QuoteKind, c = kind.mark := by
    rintro z _ hc ⟨kind, rfl⟩
    exact z.markFree kind hc
  obtain ⟨htext, hrest⟩ := append_inj_of_border (hfree x) (hfree y) hs ht h
  exact ⟨Stretch.ext htext, hrest⟩

/-- **A literal ends at the first of its own quotes**, and its first character tells its kind. -/
theorem Literal.append_inj (l m : Literal)
    (h : l.kind.mark :: (l.content ++ l.kind.mark :: s) =
      m.kind.mark :: (m.content ++ m.kind.mark :: t)) : l = m ∧ s = t := by
  obtain ⟨hmark, hrest⟩ := List.cons.inj h
  rw [hmark] at hrest
  have hborder : ∀ a : Text, ∀ c ∈ (m.kind.mark :: a).head?, c = m.kind.mark :=
    fun a c hc => (Option.some.inj hc).symm
  have hl : ∀ c ∈ l.content, ¬ c = m.kind.mark := fun c hc heq => l.fits (hmark ▸ heq ▸ hc)
  have hm : ∀ c ∈ m.content, ¬ c = m.kind.mark := fun c hc heq => m.fits (heq ▸ hc)
  obtain ⟨hcontent, htail⟩ := append_inj_of_border hl hm (hborder s) (hborder t) hrest
  exact ⟨Literal.ext (QuoteKind.mark_injective hmark) hcontent, (List.cons.inj htail).2⟩

/-! ## The text of parts -/

theorem partsText_nil_some (l : Literal) : partsText [] (some l) = l.kind.mark :: l.content := rfl

theorem partsText_cons (l : Literal) (x : Stretch) (parts : List (Literal × Stretch))
    (tail : Option Literal) :
    partsText ((l, x) :: parts) tail =
      l.kind.mark :: (l.content ++ l.kind.mark :: (x.text ++ partsText parts tail)) := by
  simp [partsText, Literal.closed, QuoteKind.literal]

theorem beginsWithMark_partsText (parts : List (Literal × Stretch)) (tail : Option Literal) :
    BeginsWithMark (partsText parts tail) := by
  intro c hc
  cases parts with
  | nil =>
    cases tail with
    | none => cases hc
    | some l => exact ⟨l.kind, (Option.some.inj hc).symm⟩
  | cons p parts =>
    obtain ⟨l, x⟩ := p
    rw [partsText_cons] at hc
    exact ⟨l.kind, (Option.some.inj hc).symm⟩

/-- A literal is closed or left open, and not both. -/
theorem partsText_cons_ne_nil (l : Literal) (x : Stretch) (parts : List (Literal × Stretch))
    (tail tail' : Option Literal) : partsText ((l, x) :: parts) tail ≠ partsText [] tail' := by
  intro h
  rw [partsText_cons] at h
  cases tail' with
  | none => cases h
  | some l' =>
    rw [partsText_nil_some] at h
    obtain ⟨hmark, hcontent⟩ := List.cons.inj h
    exact l'.fits (hmark ▸ hcontent ▸ by simp)

/-- Texts of parts tell the parts. -/
theorem partsText_inj {parts parts' : List (Literal × Stretch)} {tail tail' : Option Literal}
    (h : partsText parts tail = partsText parts' tail') : parts = parts' ∧ tail = tail' := by
  induction parts generalizing parts' with
  | nil =>
    cases parts' with
    | cons p parts' => exact absurd h.symm (partsText_cons_ne_nil p.1 p.2 parts' tail' tail)
    | nil =>
      refine ⟨rfl, ?_⟩
      cases tail with
      | none =>
        cases tail' with
        | none => rfl
        | some l' => cases h
      | some l =>
        cases tail' with
        | none => cases h
        | some l' =>
          obtain ⟨hmark, hcontent⟩ := List.cons.inj h
          exact congrArg some (Literal.ext (QuoteKind.mark_injective hmark) hcontent)
  | cons p parts ih =>
    cases parts' with
    | nil => exact absurd h (partsText_cons_ne_nil p.1 p.2 parts tail tail')
    | cons p' parts' =>
      obtain ⟨l, x⟩ := p
      obtain ⟨l', x'⟩ := p'
      rw [partsText_cons, partsText_cons] at h
      obtain ⟨rfl, hbehind⟩ := l.append_inj l' h
      obtain ⟨rfl, hparts⟩ := x.append_inj x' (beginsWithMark_partsText parts tail)
        (beginsWithMark_partsText parts' tail') hbehind
      obtain ⟨rfl, rfl⟩ := ih hparts
      exact ⟨rfl, rfl⟩

/-- **A text can be taken apart in one way at most.** -/
theorem Decomposition.text_injective : Function.Injective Decomposition.text := by
  intro d d' h
  obtain ⟨hfirst, hrest⟩ := d.first.append_inj d'.first (beginsWithMark_partsText d.parts d.tail)
    (beginsWithMark_partsText d'.parts d'.tail) h
  obtain ⟨hparts, htail⟩ := partsText_inj hrest
  exact Decomposition.ext hfirst hparts htail

/-! ## The way that the scan finds -/

/-- The reading that the scan follows takes the text apart. -/
theorem Outside.exists_decomposition {tail : Option QuoteKind} (h : Outside t u tail) :
    ∃ d : Decomposition, d.text = t ∧ d.outside = u ∧ d.tail.map (·.kind) = tail := by
  induction h with
  | nil => exact ⟨⟨⟨[], fun _ => List.not_mem_nil⟩, [], none⟩, rfl, rfl, rfl⟩
  | @char c t u tail hc _ ih =>
    obtain ⟨d, rfl, rfl, rfl⟩ := ih
    have hfree : ∀ kind : QuoteKind, kind.mark ∉ c :: d.first.text := fun kind hmem =>
      (List.mem_cons.mp hmem).elim (fun heq => hc kind heq.symm) (d.first.markFree kind)
    exact ⟨⟨⟨c :: d.first.text, hfree⟩, d.parts, d.tail⟩, rfl, rfl, rfl⟩
  | @literal kind s t u tail hs _ ih =>
    obtain ⟨d, rfl, rfl, rfl⟩ := ih
    refine ⟨⟨⟨[], fun _ => List.not_mem_nil⟩, (⟨kind, s, hs⟩, d.first) :: d.parts, d.tail⟩,
      ?_, ?_, rfl⟩
    · exact partsText_cons _ _ _ _
    · simp [Decomposition.outside]
  | @unclosed kind s hs =>
    exact ⟨⟨⟨[], fun _ => List.not_mem_nil⟩, [], some ⟨kind, s, hs⟩⟩, rfl, rfl, rfl⟩

/-- **The scanner realises the decomposition of a text into stretches and literals.** -/
theorem scanner_realises (t : Text) : IsRealised t := by
  have hnew : Flags.IsExclusive {} := by decide
  obtain ⟨hrest, hyielded, hopen⟩ := Scanner.drain_spec hnew t
  obtain ⟨d, htext, houtside, htail⟩ := (outside_scan t).exists_decomposition
  have hunique : ∀ d' : Decomposition, d'.text = t → d' = d := fun d' h =>
    Decomposition.text_injective (h.trans htext.symm)
  constructor
  case decomposes => exact ⟨d, htext, hunique⟩
  case yielded =>
    intro d' h
    rw [hunique d' h, houtside]
    exact hyielded
  case left =>
    intro d' h
    rw [hunique d' h, htail]
    exact ⟨hrest, hopen⟩
  case checked => exact ⟨hyielded, hopen⟩
  case exclusive => exact fun s h => ⟨h.isExclusive, h.next⟩
  case settled => exact fun s c after _ hnext => Scanner.open?_of_next hnext
  case resumed =>
    rintro flags s₁ s₂ rfl
    exact Scanner.drain_append flags s₁ s₂

end GraphLint.Expression
