import GraphLint.Expression.Quote
import Mathlib.Data.List.Basic
/-! # Characters and literals

What the scan yields, without the scan.  A text is read from left to right as characters that are no
quotes and as literals: a quote, characters other than that quote, and the quote again.  At the end a
literal may be left open.  `Outside t u tail` says that a text `t` can be read so with the characters
`u` outside its literals, and with `tail` as what is left open; and there is one such reading, that
of the scan (`outside_iff`). -/
namespace GraphLint.Expression
variable {s t u : Text} {kind : QuoteKind} {tail quote : Option QuoteKind} {c : Char}

/-- Outside the literals of a text stand the characters `u`, and a literal of kind `tail`, if of any,
is left open. -/
inductive Outside : (t u : Text) → (tail : Option QuoteKind) → Prop
  | nil : Outside [] [] none
  | char {c : Char} {t u : Text} {tail : Option QuoteKind} (hc : ∀ kind : QuoteKind, c ≠ kind.mark)
      (h : Outside t u tail) : Outside (c :: t) (c :: u) tail
  | literal {kind : QuoteKind} {s t u : Text} {tail : Option QuoteKind} (hs : kind.mark ∉ s)
      (h : Outside t u tail) : Outside (kind.mark :: (s ++ kind.mark :: t)) u tail
  | unclosed {kind : QuoteKind} {s : Text} (hs : kind.mark ∉ s) :
      Outside (kind.mark :: s) [] (some kind)

/-! ## One text after another -/

theorem openAfter_append (quote : Option QuoteKind) (s t : Text) :
    openAfter quote (s ++ t) = openAfter (openAfter quote s) t := List.foldl_append

/-- A text is scanned from the state in which the text before it has left the scan. -/
theorem unquotedFrom_append (quote : Option QuoteKind) (s t : Text) :
    unquotedFrom quote (s ++ t) = unquotedFrom quote s ++ unquotedFrom (openAfter quote s) t := by
  induction s generalizing quote with
  | nil => rfl
  | cons c s ih =>
    simp only [List.cons_append, unquotedFrom]
    split
    · rw [ih]
      rfl
    · exact ih _

/-- What is yielded stands in the text, in the same order. -/
theorem unquotedFrom_sublist (quote : Option QuoteKind) (t : Text) :
    List.Sublist (unquotedFrom quote t) t := by
  induction t generalizing quote with
  | nil => exact .slnil
  | cons c t ih =>
    rw [unquotedFrom]
    split
    · exact (ih _).cons_cons c
    · exact (ih _).cons c

/-- After a text that leaves no literal open the scan starts anew. -/
theorem unquoted_append (h : openQuote s = none) (t : Text) :
    unquoted (s ++ t) = unquoted s ++ unquoted t := by
  rw [unquoted, unquotedFrom_append, ← openQuote, h]
  rfl

theorem openQuote_append (h : openQuote s = none) (t : Text) :
    openQuote (s ++ t) = openQuote t := by
  rw [openQuote, openAfter_append, ← openQuote, h]
  rfl

/-! ## Inside a literal and outside -/

/-- A literal goes on up to its own quote, and nothing of it is yielded. -/
theorem scan_of_mark_not_mem (h : kind.mark ∉ s) :
    unquotedFrom (some kind) s = [] ∧ openAfter (some kind) s = some kind := by
  induction s with
  | nil => exact ⟨rfl, rfl⟩
  | cons c s ih =>
    obtain ⟨hc, hs⟩ := not_or.mp (mt List.mem_cons.mpr h)
    have hnext : nextOpen (some kind) c = some kind := if_neg (Ne.symm hc)
    rw [unquotedFrom, openAfter, List.foldl_cons, hnext]
    exact ih hs

theorem nextOpen_mark (kind : QuoteKind) : nextOpen none kind.mark = some kind := by
  cases kind <;> rfl

theorem nextOpen_some_mark (kind : QuoteKind) : nextOpen (some kind) kind.mark = none := if_pos rfl

theorem yields_mark (quote : Option QuoteKind) (kind : QuoteKind) :
    yields quote kind.mark = false := by
  cases kind <;> simp [yields, QuoteKind.mark]

/-- Outside all literals a character that is no quote is yielded. -/
theorem yields_none (h : ∀ kind : QuoteKind, c ≠ kind.mark) : yields none c = true := by
  simpa [yields, QuoteKind.mark] using And.intro (h .double) (h .single)

theorem unquotedFrom_none_cons (h : ∀ kind : QuoteKind, c ≠ kind.mark) (t : Text) :
    unquotedFrom none (c :: t) = c :: unquotedFrom none t := by
  rw [unquotedFrom, if_pos (yields_none h), nextOpen_of_yields (yields_none h)]

theorem openAfter_none_cons (h : ∀ kind : QuoteKind, c ≠ kind.mark) (t : Text) :
    openAfter none (c :: t) = openAfter none t := by
  rw [openAfter, List.foldl_cons, nextOpen_of_yields (yields_none h)]
  rfl

theorem unquotedFrom_mark (kind : QuoteKind) (t : Text) :
    unquotedFrom none (kind.mark :: t) = unquotedFrom (some kind) t := by
  rw [unquotedFrom, yields_mark, nextOpen_mark]
  rfl

theorem openAfter_mark (kind : QuoteKind) (t : Text) :
    openAfter none (kind.mark :: t) = openAfter (some kind) t := by
  rw [openAfter, List.foldl_cons, nextOpen_mark]
  rfl

/-- A text without quotes is yielded as it is, and opens and closes nothing. -/
theorem scan_of_forall_mark_not_mem (h : ∀ kind : QuoteKind, kind.mark ∉ t) :
    unquoted t = t ∧ ∀ quote, openAfter quote t = quote := by
  constructor
  · unfold unquoted
    induction t with
    | nil => rfl
    | cons c t ih =>
      have hc : ∀ kind : QuoteKind, c ≠ kind.mark := fun kind heq => h kind (by simp [heq])
      rw [unquotedFrom_none_cons hc, ih fun kind hmem => h kind (List.mem_cons_of_mem c hmem)]
  · intro quote
    cases quote with
    | some kind => exact (scan_of_mark_not_mem (h kind)).2
    | none =>
      induction t with
      | nil => rfl
      | cons c t ih =>
        have hc : ∀ kind : QuoteKind, c ≠ kind.mark := fun kind heq => h kind (by simp [heq])
        rw [openAfter_none_cons hc, ih fun kind hmem => h kind (List.mem_cons_of_mem c hmem)]

/-- A closed literal leaves no trace in the scan. -/
theorem scan_literal (h : kind.mark ∉ s) (t : Text) :
    unquotedFrom none (kind.mark :: (s ++ kind.mark :: t)) = unquotedFrom none t ∧
      openAfter none (kind.mark :: (s ++ kind.mark :: t)) = openAfter none t := by
  obtain ⟨hyield, hopen⟩ := scan_of_mark_not_mem h
  constructor
  · rw [unquotedFrom_mark, unquotedFrom_append, hyield, hopen, List.nil_append, unquotedFrom,
      yields_mark, nextOpen_some_mark]
    rfl
  · rw [openAfter_mark, openAfter_append, hopen, openAfter, List.foldl_cons, nextOpen_some_mark]
    rfl

/-! ## The one reading of a text -/

/-- Every text has a reading, and the scan follows it. -/
theorem outside_scan (t : Text) : Outside t (unquoted t) (openQuote t) := by
  unfold unquoted openQuote
  induction hn : t.length using Nat.strongRecOn generalizing t with
  | ind n ih =>
    cases t with
    | nil => exact .nil
    | cons c t =>
      rw [List.length_cons] at hn
      by_cases hc : ∃ kind : QuoteKind, c = kind.mark
      · obtain ⟨kind, rfl⟩ := hc
        by_cases hclosed : kind.mark ∈ t
        · obtain ⟨s, rest, rfl, hs⟩ := List.eq_append_cons_of_mem hclosed
          rw [List.length_append, List.length_cons] at hn
          rw [(scan_literal hs rest).1, (scan_literal hs rest).2]
          exact .literal hs (ih rest.length (by omega) rest rfl)
        · obtain ⟨hyield, hopen⟩ := scan_of_mark_not_mem hclosed
          rw [unquotedFrom_mark, openAfter_mark, hyield, hopen]
          exact .unclosed hclosed
      · have hc : ∀ kind : QuoteKind, c ≠ kind.mark := fun kind heq => hc ⟨kind, heq⟩
        rw [unquotedFrom_none_cons hc, openAfter_none_cons hc]
        exact .char hc (ih t.length (by omega) t rfl)

/-- **The scan yields what stands outside the literals of a text**, and ends with the literal that
the text leaves open. -/
theorem outside_iff : Outside t u tail ↔ u = unquoted t ∧ tail = openQuote t := by
  constructor
  · intro h
    unfold unquoted openQuote
    induction h with
    | nil => exact ⟨rfl, rfl⟩
    | char hc _ ih =>
      rw [unquotedFrom_none_cons hc, openAfter_none_cons hc, ← ih.1, ← ih.2]
      exact ⟨rfl, rfl⟩
    | @literal kind s t u tail hs _ ih =>
      rw [(scan_literal hs t).1, (scan_literal hs t).2]
      exact ih
    | @unclosed kind s hs =>
      rw [unquotedFrom_mark, openAfter_mark]
      obtain ⟨hyield, hopen⟩ := scan_of_mark_not_mem hs
      exact ⟨hyield.symm, hopen.symm⟩
  · rintro ⟨rfl, rfl⟩
    exact outside_scan t

end GraphLint.Expression
