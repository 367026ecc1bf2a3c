import GraphLint.Position
import GraphLint.Proofs.Text.Lines
import GraphLint.Proofs.Text.Search
import Mathlib.Data.List.Forall2
/-! # Carriage returns at the ends of lines

`crlf` puts a carriage return before every line feed.  Lines are cut at line feeds, so the lines of
the two texts are the same but for a carriage return at the end (`SameLine`, `sameLines_crlf`).
What is read off a line without regard to such a character (`IgnoresReturn`) is then read off both
texts, and so is whatever depends on the lines only through it (`IgnoresReturn.map_eq`). -/
namespace GraphLint.Text
variable {α : Type} {f : Text → α} {g : Text → Bool} {s t line other part lead : Text}
  {ls ls' : List Text}

/-- The text with a carriage return before every line feed. -/
def crlf (t : Text) : Text := t.flatMap fun c => if c = '\n' then ['\r', '\n'] else [c]

/-- Two lines are the same but for a carriage return that may end the second one. -/
inductive SameLine : (line other : Text) → Prop
  | same {line : Text} (h : '\r' ∉ line) : SameLine line line
  | returned {line : Text} (h : '\r' ∉ line) : SameLine line (line ++ ['\r'])

/-- What is read off a line is the same with a carriage return at its end. -/
def IgnoresReturn (f : Text → α) : Prop := ∀ line, '\r' ∉ line → f (line ++ ['\r']) = f line

theorem IgnoresReturn.eq (hf : IgnoresReturn f) (h : SameLine line other) : f other = f line := by
  cases h with
  | same _ => rfl
  | returned h => exact hf _ h

/-! ## The lines of a text -/

theorem crlf_append (s t : Text) : crlf (s ++ t) = crlf s ++ crlf t := List.flatMap_append

theorem crlf_eq_self (h : '\n' ∉ t) : crlf t = t := by
  induction t with
  | nil => rfl
  | cons c t ih =>
    obtain ⟨hc, ht⟩ := not_or.mp (mt List.mem_cons.mpr h)
    rw [crlf, List.flatMap_cons, if_neg (Ne.symm hc)]
    exact congrArg (c :: ·) (ih ht)

/-- **The lines are the same** but for the carriage returns. -/
theorem sameLines_crlf (h : '\r' ∉ t) : List.Forall₂ SameLine (lines t) (lines (crlf t)) := by
  induction t using linesInduction with
  | single line hline =>
    rw [crlf_eq_self hline, lines_eq_singleton hline]
    exact .cons (.same h) .nil
  | cons line rest hline ih =>
    rw [List.mem_append, List.mem_cons, not_or, not_or] at h
    have hcrlf : crlf (line ++ '\n' :: rest) = (line ++ ['\r']) ++ '\n' :: crlf rest := by
      rw [crlf_append, crlf_eq_self hline, List.append_assoc]
      rfl
    have hreturn : '\n' ∉ line ++ ['\r'] := by simpa using hline
    rw [hcrlf, lines_append_cons_of_not_mem hline, lines_append_cons_of_not_mem hreturn]
    exact .cons (.returned h.1) (ih h.2.2)

section
variable (h : List.Forall₂ SameLine ls ls')
include h

/-- What is read off all lines is the same. -/
theorem IgnoresReturn.map_eq (hf : IgnoresReturn f) : ls'.map f = ls.map f := by
  induction h with
  | nil => rfl
  | cons hline _ ih => rw [List.map_cons, List.map_cons, hf.eq hline, ih]

theorem IgnoresReturn.any_eq {p : Text → Bool} (hp : IgnoresReturn p) : ls'.any p = ls.any p := by
  have hany : ∀ xs : List Text, xs.any p = (xs.map p).any id := fun xs => by
    rw [List.any_map]
    rfl
  rw [hany, hany, hp.map_eq h]

theorem IgnoresReturn.findIdx?_eq {p : Text → Bool} (hp : IgnoresReturn p) :
    ls'.findIdx? p = ls.findIdx? p := by
  have hfind : ∀ xs : List Text, xs.findIdx? p = (xs.map p).findIdx? id := fun xs => by
    rw [List.findIdx?_map]
    rfl
  rw [hfind, hfind, hp.map_eq h]

theorem IgnoresReturn.takeWhile {p : Text → Bool} (hp : IgnoresReturn p) :
    List.Forall₂ SameLine (ls.takeWhile p) (ls'.takeWhile p) := by
  induction h with
  | nil => exact .nil
  | cons hline _ ih =>
    rw [List.takeWhile_cons, List.takeWhile_cons, hp.eq hline]
    split
    · exact .cons hline ih
    · exact .nil

theorem getElem?_rel (i : Nat) : Option.Rel SameLine ls[i]? ls'[i]? := by
  induction h generalizing i with
  | nil => exact .none
  | cons hline _ ih =>
    cases i with
    | zero => exact .some hline
    | succ i => exact ih i

end

/-! ## What is read off a line -/

theorem ignoresReturn_occurs (h : '\r' ∉ part) : IgnoresReturn (occurs part) := by
  intro line _
  rw [occurs_append_cons h, Bool.or_eq_left_iff_imp]
  intro hnil
  obtain rfl := List.infix_nil.mp (occurs_iff_isInfix.mp hnil)
  exact occurs_iff_isInfix.mpr List.nil_infix

theorem trimEnd_append_return (t : Text) : trimEnd (t ++ ['\r']) = trimEnd t := by
  rw [trimEnd, List.reverse_append]
  rfl

theorem ignoresReturn_trim : IgnoresReturn trim := by
  intro line _
  unfold trim trimStart
  rw [List.dropWhile_append]
  split
  · rename_i hblank
    rw [List.isEmpty_iff.mp hblank]
    rfl
  · exact trimEnd_append_return _

theorem ignoresReturn_indentation : IgnoresReturn indentation := by
  intro line _
  unfold indentation
  rw [List.takeWhile_append]
  split
  · rename_i hspaces
    exact (congrArg List.length (List.append_nil line)).trans hspaces.symm
  · rfl

theorem ignoresReturn_width : IgnoresReturn Range.width := by
  intro line _
  rw [Range.width, trimEndChar, List.reverse_append]
  rfl

theorem ignoresReturn_any {β : Type} {p : β → Text → Bool} {bs : List β}
    (hp : ∀ b ∈ bs, IgnoresReturn (p b)) : IgnoresReturn fun t => bs.any fun b => p b t := by
  induction bs with
  | nil => exact fun _ _ => rfl
  | cons b bs ih =>
    intro line hline
    simp only [List.any_cons, hp b List.mem_cons_self line hline]
    exact congrArg _ (ih (fun d hd => hp d (List.mem_cons_of_mem _ hd)) line hline)

/-- After the spaces that a line starts with comes the same, so what is read there is the same. -/
theorem IgnoresReturn.comp_dropSpaces (hf : IgnoresReturn f) :
    IgnoresReturn fun t => f (dropSpaces t) := by
  intro line hline
  have hdrop : dropSpaces (line ++ ['\r']) = dropSpaces line ++ ['\r'] := by
    unfold dropSpaces
    rw [List.dropWhile_append]
    split
    · rename_i hspaces
      rw [List.isEmpty_iff.mp hspaces]
      rfl
    · rfl
  have hmem : '\r' ∉ dropSpaces line := fun h => hline ((List.dropWhile_sublist _).subset h)
  simp only [hdrop, hf _ hmem]

/-- What is read after a part without carriage returns is the same. -/
theorem IgnoresReturn.any_after? (hg : IgnoresReturn g) (hlead : '\r' ∉ lead) :
    IgnoresReturn fun t => (after? lead t).any g := by
  intro line hline
  simp only
  cases hafter : after? lead line with
  | some rest =>
    rw [after?_eq_some_iff] at hafter
    have hrest : '\r' ∉ rest := fun h => hline (hafter ▸ List.mem_append_right lead h)
    rw [hafter, List.append_assoc, after?_eq_some_iff.mpr rfl]
    exact hg rest hrest
  | none =>
    cases hreturn : after? lead (line ++ ['\r']) with
    | none => rfl
    | some rest =>
      have hpre : lead <+: line ++ ['\r'] := ⟨rest, (after?_eq_some_iff.mp hreturn).symm⟩
      obtain ⟨tail, htail⟩ := isPrefix_of_append_cons hlead hpre
      rw [after?_eq_some_iff.mpr htail.symm] at hafter
      cases hafter

/-- The start of a line is the same, unless it takes in the carriage return. -/
theorem SameLine.take (h : SameLine line other) (n : Nat) : SameLine (line.take n) (other.take n) := by
  cases h with
  | same h => exact .same fun hmem => h (List.mem_of_mem_take hmem)
  | returned h =>
    by_cases hn : n ≤ line.length
    · rw [List.take_append_of_le_length hn]
      exact .same fun hmem => h (List.mem_of_mem_take hmem)
    · have hlen : (line ++ ['\r']).length ≤ n := by
        rw [List.length_append, List.length_singleton]
        omega
      rw [List.take_of_length_le hlen, List.take_of_length_le (by omega)]
      exact .returned h

/-! ## What is read off a text -/

/-- A part without a line feed is looked for line by line. -/
theorem occurs_eq_any_lines (h : '\n' ∉ part) (t : Text) :
    occurs part t = (lines t).any (occurs part) := by
  induction t using linesInduction with
  | single t ht => rw [lines_eq_singleton ht, List.any_cons, List.any_nil, Bool.or_false]
  | cons line rest hline ih =>
    rw [lines_append_cons_of_not_mem hline, List.any_cons, occurs_append_cons h, ih]

section
variable (h : List.Forall₂ SameLine (lines t) (lines s))
include h

theorem occurs_eq_of_sameLines (hn : '\n' ∉ part) (hr : '\r' ∉ part) :
    occurs part s = occurs part t := by
  rw [occurs_eq_any_lines hn, occurs_eq_any_lines hn, (ignoresReturn_occurs hr).any_eq h]

theorem fullLine_eq_of_sameLines (i : UInt32) : Range.fullLine s i = Range.fullLine t i := by
  unfold Range.fullLine
  rw [← List.getElem?_map, ← List.getElem?_map, ignoresReturn_width.map_eq h]

end

end GraphLint.Text
