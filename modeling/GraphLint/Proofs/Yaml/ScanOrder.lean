import GraphLint.Yaml.Lexer
/-! # A scanner fails no earlier than it began

A fault may name two places: where its problem shows, and where what was being read began.  The
second is on no later line than the first (`Fault.InOrder`), because a cursor never goes back: every
scanner that starts at or after a place ends there or later, or fails in order.

`Yields P x` says this of an outcome `x`: what it gives has the property `P`, and the fault that it
may be is in order.  It is composed like the outcomes themselves (`Yields.bind`), so that each
scanner takes one walk along its definition.  A scanner for a whole token gives one that starts where
it did (`Scans`). -/
namespace GraphLint.Yaml

/-- Whether what was being read began no later than the line where the problem shows. -/
def Fault.InOrder (f : Fault) : Prop := ∀ c ∈ f.context, c.2.line ≤ f.mark.line

/-- Whether what an outcome gives has a property, and its fault is in order. -/
def Yields {α : Type} (P : α → Prop) : Except Fault α → Prop
  | .ok a => P a
  | .error f => f.InOrder

namespace Yields
variable {α β : Type} {P : α → Prop} {Q : β → Prop} {a : α} {since m : Mark}

/-- A fault without an activity is in order. -/
theorem «at» (problem : Problem) (m : Mark) : Yields P (.error (.at problem m)) := nofun

theorem within {activity : Activity} {problem : Problem} (h : since.line ≤ m.line) :
    Yields P (.error (.within activity since problem m)) := by
  rintro _ ⟨⟩
  exact h

theorem ite {c : Prop} [Decidable c] {x y : Except Fault α} (hx : Yields P x) (hy : Yields P y) :
    Yields P (if c then x else y) := by
  split
  · exact hx
  · exact hy

theorem mono {P' : α → Prop} {x : Except Fault α} (h : Yields P x) (hP : ∀ a, P a → P' a) :
    Yields P' x := by
  cases x with
  | ok a => exact hP a h
  | error f => exact h

theorem bind {x : Except Fault α} {f : α → Except Fault β} (h : Yields P x)
    (hf : ∀ a, P a → Yields Q (f a)) : Yields Q (x >>= f) := by
  cases x with
  | ok a => exact hf a h
  | error f => exact h

/-- Outcomes one after another. -/
theorem mapM {f : α → Except Fault β} {xs : List α} (h : ∀ x ∈ xs, Yields Q (f x)) :
    Yields (∀ y ∈ ·, Q y) (xs.mapM f) := by
  induction xs with
  | nil => exact fun y hy => absurd hy List.not_mem_nil
  | cons x xs ih =>
    rw [List.mapM_cons]
    refine (h x List.mem_cons_self).bind fun y hy => ?_
    refine (ih fun x hx => h x (List.mem_cons_of_mem _ hx)).bind fun ys hys => ?_
    exact List.forall_mem_cons.mpr ⟨hy, hys⟩

end Yields

/-! ## Cursors never go back -/

@[simp] theorem Mark.line_forward (m : Mark) (n : Nat) : (m.forward n).line = m.line := rfl

@[simp] theorem Mark.line_nextLine (m : Mark) (n : Nat) : (m.nextLine n).line = m.line + 1 := rfl

namespace Cursor

@[simp] theorem line_skipComment (c : Cursor) : c.skipComment.mark.line = c.mark.line := by
  rw [skipComment]
  split <;> rfl

theorem line_le_skipBreak (c : Cursor) : c.mark.line ≤ c.skipBreak.mark.line := by
  rw [skipBreak]
  split
  · exact Nat.le_succ _
  · split
    · exact Nat.le_succ _
    · exact Nat.le_refl _
  · exact Nat.le_refl _

end Cursor

/-- Whether a scanner gives a token that starts where it did, and goes on there or later. -/
def Scans (c : Cursor) : Except Fault (Token × Cursor) → Prop :=
  Yields fun r => r.1.start = c.mark ∧ c.mark.line ≤ r.2.mark.line

section
variable {since : Mark} {c : Cursor}

/-! ## Tags, anchors and directives -/

theorem trailingOctets_yields (place : TagPlace) (count : Nat) (h : since.line ≤ c.mark.line) :
    Yields (since.line ≤ ·.2.mark.line) (trailingOctets place since count c) := by
  induction count generalizing c with
  | zero => exact h
  | succ count ih =>
    rw [trailingOctets]
    split
    · exact Yields.within h
    · split
      · exact (ih (c := c.forward 3) h).bind fun _ h => h
      · exact Yields.within h

theorem escapedOctets_yields (place : TagPlace) (h : since.line ≤ c.mark.line) :
    Yields (since.line ≤ ·.2.mark.line) (escapedOctets place since c) := by
  rw [escapedOctets]
  split
  · exact Yields.within h
  · split
    · exact Yields.within h
    · exact (trailingOctets_yields place _ (c := c.forward 3) h).bind fun _ h => h

theorem uriOctets_yields (place : TagPlace) (isUri : Char → Bool) (fuel : Nat)
    (h : since.line ≤ c.mark.line) :
    Yields (since.line ≤ ·.2.mark.line) (uriOctets place since isUri fuel c) := by
  induction fuel generalizing c with
  | zero => exact h
  | succ fuel ih =>
    rw [uriOctets]
    split
    · exact h
    · split
      · refine (escapedOctets_yields place h).bind fun _ h => ?_
        exact (ih h).bind fun _ h => h
      · split
        · exact (ih (c := c.forward 1) h).bind fun _ h => h
        · exact h

theorem scanUri_yields (place : TagPlace) (isUri : Char → Bool) (lead : Text)
    (h : since.line ≤ c.mark.line) :
    Yields (since.line ≤ ·.2.mark.line) (scanUri place since isUri lead c) := by
  rw [scanUri]
  refine (uriOctets_yields place isUri _ h).bind fun r h => ?_
  dsimp only
  split
  · exact Yields.within h
  · exact h

theorem scanHandle_yields (place : TagPlace) (h : since.line ≤ c.mark.line) :
    Yields (since.line ≤ ·.2.mark.line) (scanHandle place since c) := by
  unfold scanHandle
  split
  · exact Yields.within h
  · dsimp only
    split
    · exact h
    · split
      · exact Yields.within h
      · exact h

theorem scanShorthand_yields (h : since.line ≤ c.mark.line) :
    Yields (since.line ≤ ·.2.2.mark.line) (scanShorthand since c) := by
  rw [scanShorthand]
  refine (scanHandle_yields .property h).bind fun r h => ?_
  dsimp only
  split
  · exact (scanUri_yields .property isUriChar [] h).bind fun _ h => h
  · refine (scanUri_yields .property isUriChar r.1 h).bind fun _ h => ?_
    split <;> exact h

theorem scanTag_scans (inFlow : Bool) (c : Cursor) : Scans c (scanTag inFlow c) := by
  have hend (handle : Text) (suffix : List UInt8) {after : Cursor}
      (h : c.mark.line ≤ after.mark.line) :
      Scans c (if after.gapAt 0 || (inFlow && after.sees ',') then
        .ok (⟨.tag handle suffix, c.mark, after.mark⟩, after)
      else .error (.within .tag c.mark .tagTail after.mark)) := by
    split
    · exact ⟨rfl, h⟩
    · exact Yields.within h
  rw [scanTag]
  split
  · have hstart : c.mark.line ≤ (c.forward 2).mark.line := Nat.le_refl _
    refine (scanUri_yields .property _ [] hstart).bind fun r h => ?_
    have hclosed : c.mark.line ≤ (r.2.forward 1).mark.line := h
    dsimp only
    split
    · exact hend _ _ hclosed
    · exact Yields.within h
  · exact (scanShorthand_yields (Nat.le_refl _)).bind fun r h => hend _ _ h

theorem scanAnchor_scans (activity : Activity) (kind : Text → TokenKind) (c : Cursor) :
    Scans c (scanAnchor activity kind c) := by
  rw [scanAnchor]
  dsimp only
  split
  · exact Yields.within (Nat.le_refl _)
  · exact ⟨rfl, Nat.le_refl _⟩

theorem scanVersionNumber_yields (h : since.line ≤ c.mark.line) :
    Yields (since.line ≤ ·.2.mark.line) (scanVersionNumber since c) := by
  rw [scanVersionNumber]
  split
  · exact Yields.within h
  · split
    · exact Yields.within h
    · exact h

theorem scanVersion_yields (h : since.line ≤ c.mark.line) :
    Yields (since.line ≤ ·.2.mark.line) (scanVersion since c) := by
  rw [scanVersion]
  refine (scanVersionNumber_yields (c := c.skipSpaces) h).bind fun r h => ?_
  dsimp only
  split
  · exact (scanVersionNumber_yields (c := r.2.forward 1) h).bind fun _ h => h
  · exact Yields.within h

theorem scanTagDirective_yields (h : since.line ≤ c.mark.line) :
    Yields (since.line ≤ ·.2.mark.line) (scanTagDirective since c) := by
  rw [scanTagDirective]
  refine (scanHandle_yields .directive (c := c.skipSpaces) h).bind fun r h => ?_
  dsimp only
  split
  · exact Yields.within h
  · refine (scanUri_yields .directive isVerbatimUriChar [] (c := r.2.skipSpaces) h).bind
      fun r h => ?_
    split
    · exact h
    · exact Yields.within h

theorem scanDirective_scans (c : Cursor) : Scans c (scanDirective c) := by
  have hend (kind : TokenKind) {after : Cursor} (h : c.mark.line ≤ after.mark.line) :
      Scans c (if after.skipSpaces.skipComment.breakOrEndAt 0 then
        .ok (⟨kind, c.mark, after.mark⟩, after.skipSpaces.skipComment.skipBreak)
      else .error (.within .directive c.mark .directiveTail after.skipSpaces.skipComment.mark)) := by
    have htail : c.mark.line ≤ after.skipSpaces.skipComment.mark.line := by
      rw [Cursor.line_skipComment]
      exact h
    split
    · exact ⟨rfl, Nat.le_trans htail (Cursor.line_le_skipBreak _)⟩
    · exact Yields.within htail
  have hname : c.mark.line ≤ ((c.forward 1).takeWhile isWordChar).2.mark.line := Nat.le_refl _
  rw [scanDirective]
  dsimp only
  split
  · exact Yields.within hname
  · split
    · exact Yields.within hname
    · split
      · exact (scanVersion_yields hname).bind fun r h => hend _ h
      · split
        · exact (scanTagDirective_yields hname).bind fun r h => hend _ h
        · exact Yields.within hname

/-! ## Block scalars -/

theorem scanIncrement_yields (h : since.line ≤ c.mark.line) :
    Yields (since.line ≤ ·.2.mark.line) (scanIncrement since c) := by
  rw [scanIncrement]
  split
  · split
    · exact Yields.within h
    · split <;> exact h
  · exact h

theorem scanBlockHeader_yields (h : since.line ≤ c.mark.line) :
    Yields (since.line ≤ ·.2.2.mark.line) (scanBlockHeader since c) := by
  rw [scanBlockHeader]
  split
  · exact (scanIncrement_yields (c := c.forward 1) h).bind fun _ h => h
  · refine (scanIncrement_yields h).bind fun r h => ?_
    dsimp only
    split <;> exact h

theorem blockBreaks_yields (indent : Option Nat) (fuel widest : Nat) (breaks : Text) (stop : Mark)
    (h : since.line ≤ c.mark.line) :
    Yields (since.line ≤ ·.2.2.2.mark.line)
      (blockBreaks since indent fuel widest breaks stop c) := by
  induction fuel generalizing widest breaks stop c with
  | zero => exact h
  | succ fuel ih =>
    unfold blockBreaks
    extract_lets spaces eaten after widest
    have hafter : since.line ≤ after.mark.line := h
    split
    · exact Yields.within hafter
    · split
      · exact hafter
      · exact ih _ _ _ (Nat.le_trans hafter (Cursor.line_le_skipBreak after))

theorem blockLines_yields (fold : Bool) (indent fuel : Nat) {s : BlockState}
    (h : since.line ≤ s.cursor.mark.line) :
    Yields (since.line ≤ ·.cursor.mark.line) (blockLines fold since indent fuel s) := by
  induction fuel generalizing s with
  | zero => exact h
  | succ fuel ih =>
    rw [blockLines]
    split
    · refine (blockBreaks_yields (some indent) _ 0 [] _ ?_).bind fun r h => ih h
      exact Nat.le_trans h (Cursor.line_le_skipBreak (s.cursor.takeWhile _).2)
    · exact h

theorem scanBlock_scans (fold : Bool) (parent : Int) (c : Cursor) :
    Scans c (scanBlock fold parent c) := by
  have hstart : c.mark.line ≤ (c.forward 1).mark.line := Nat.le_refl _
  rw [scanBlock]
  refine (scanBlockHeader_yields hstart).bind fun r h => ?_
  have htail : c.mark.line ≤ r.2.2.skipSpaces.skipComment.mark.line := by
    rw [Cursor.line_skipComment]
    exact h
  have hbreak := Nat.le_trans htail (Cursor.line_le_skipBreak _)
  dsimp only
  split
  · exact Yields.within htail
  · refine (blockBreaks_yields _ _ 0 [] _ hbreak).bind fun r h => ?_
    exact (blockLines_yields fold _ _ h).bind fun s h => ⟨rfl, h⟩

/-! ## Flow scalars -/

/-- A gap ends, or meets a tab, no earlier than it starts. -/
theorem scanGap_line_le (limit : Option Nat) (t : Text) (m : Mark) (g : Gap) :
    match scanGap limit t m g with
    | .ok r => m.line ≤ r.2.mark.line
    | .error tab => m.line ≤ tab.line := by
  fun_induction scanGap limit t m g with
  | case1 m g => exact Nat.le_refl _
  | case2 rest m g ih =>
    revert ih
    cases scanGap limit rest (m.nextLine 2) (g.lineBreak '\n') <;>
      exact fun ih => Nat.le_of_succ_le ih
  | case3 c rest m g _ _ _ => exact Nat.le_refl _
  | case4 c rest m g _ _ _ ih => exact ih
  | case5 c rest m g _ _ _ stands ih =>
    revert ih
    cases scanGap limit rest (m.nextLine 1) (g.lineBreak stands) <;>
      exact fun ih => Nat.le_of_succ_le ih
  | case6 c rest m g _ _ _ => exact Nat.le_refl _

theorem plainWords_yields (inFlow : Bool) (indent fuel : Nat) {s : PlainState}
    (h : since.line ≤ s.cursor.mark.line) :
    Yields (since.line ≤ ·.cursor.mark.line) (plainWords inFlow indent since fuel s) := by
  induction fuel generalizing s with
  | zero => exact h
  | succ fuel ih =>
    rw [plainWords]
    split
    · exact h
    · split
      · exact Yields.within h
      · rename_i word rest _
        have hword : since.line ≤ (if word.isEmpty then s else
            ⟨word.reverse ++ (s.gap.fold false).reverse ++ s.text,
              s.cursor.mark.forward word.length, .none,
              ⟨rest, s.cursor.mark.forward word.length⟩⟩ : PlainState).cursor.mark.line := by
          split <;> exact h
        dsimp only
        split
        · have hgap := scanGap_line_le (some indent) rest (s.cursor.mark.forward word.length)
            (if word.isEmpty then s else
              ⟨word.reverse ++ (s.gap.fold false).reverse ++ s.text,
                s.cursor.mark.forward word.length, .none,
                ⟨rest, s.cursor.mark.forward word.length⟩⟩ : PlainState).gap
          split
          · rename_i tab htab
            rw [htab] at hgap
            exact Yields.within (Nat.le_trans h hgap)
          · rename_i gap cursor hok
            rw [hok] at hgap
            split
            · exact Nat.le_trans h hgap
            · exact ih (Nat.le_trans h hgap)
        · exact hword

theorem scanPlain_yields (inFlow : Bool) (indent : Nat) (c : Cursor) :
    Yields (fun r => r.1.start = c.mark ∧ c.mark.line ≤ r.2.2.mark.line)
      (scanPlain inFlow indent c) := by
  rw [scanPlain]
  have hstart : c.mark.line ≤ (PlainState.mk [] c.mark .none c).cursor.mark.line := Nat.le_refl _
  exact (plainWords_yields inFlow indent _ hstart).bind fun s h => ⟨rfl, h⟩

theorem scanEscape_yields (h : since.line ≤ c.mark.line) :
    Yields (since.line ≤ ·.2.mark.line) (scanEscape since c) := by
  rw [scanEscape]
  split
  · exact Yields.within h
  · split
    · exact h
    · exact Yields.within h
    · dsimp only
      split
      · exact Yields.within h
      · split
        · exact Yields.within h
        · exact h

theorem quotedWord_yields (double : Bool) (fuel : Nat) (word : Text)
    (h : since.line ≤ c.mark.line) :
    Yields (since.line ≤ ·.2.2.mark.line) (quotedWord double since fuel word c) := by
  induction fuel generalizing word c with
  | zero => exact h
  | succ fuel ih =>
    rw [quotedWord]
    split
    · exact h
    · split
      · exact h
      · split
        · split
          · exact h
          · split
            · split
              · exact Nat.le_trans h (Cursor.line_le_skipBreak (c.forward 1))
              · exact (scanEscape_yields h).bind fun r h => ih _ h
            · exact ih (c := c.forward 1) _ h
        · split
          · split
            · exact ih (c := c.forward 2) _ h
            · exact h
          · exact ih (c := c.forward 1) _ h

theorem quotedWords_yields (double : Bool) (fuel : Nat) (text : Text)
    (h : since.line ≤ c.mark.line) :
    Yields (since.line ≤ ·.2.mark.line) (quotedWords double since fuel text c) := by
  induction fuel generalizing text c with
  | zero => exact h
  | succ fuel ih =>
    rw [quotedWords]
    split
    · exact Yields.within h
    · split
      · exact Yields.within h
      · refine (quotedWord_yields double _ text h).bind fun r h => ?_
        dsimp only
        generalize (if double = true then '"' else '\'') = quote
        split
        · exact h
        · have hgap := scanGap_line_le none r.2.2.rest r.2.2.mark
            (if r.2.1 then .escaped else .none)
          split
          · rename_i tab htab
            rw [htab] at hgap
            exact Yields.within (Nat.le_trans h hgap)
          · rename_i gap cursor hok
            rw [hok] at hgap
            exact ih _ (Nat.le_trans h hgap)

theorem scanQuoted_scans (double : Bool) (c : Cursor) : Scans c (scanQuoted double c) := by
  rw [scanQuoted]
  have hstart : c.mark.line ≤ (c.forward 1).mark.line := Nat.le_refl _
  exact (quotedWords_yields double _ [] hstart).bind fun r h => ⟨rfl, h⟩

end
end GraphLint.Yaml
