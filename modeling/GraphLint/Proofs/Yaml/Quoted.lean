import GraphLint.Yaml.Scalar.Quoted
import Mathlib.Data.List.TakeWhile
/-! # Quoted scalars on one line

A quoted scalar on one line, without escapes, holds characters that stand for themselves: no line
break, not its own quote, and no backslash in double quotes.  It is read word by word, and the gaps
between the words stand for themselves, so what is read is what was written (`scanQuoted_text`). -/
namespace GraphLint.Yaml

/-! ## Marks -/

@[simp] theorem Mark.forward_zero (m : Mark) : m.forward 0 = m := rfl

@[simp] theorem Mark.forward_forward (m : Mark) (a b : Nat) :
    (m.forward a).forward b = m.forward (a + b) := by
  simp only [forward, Nat.add_assoc]

@[simp] theorem Mark.column_forward (m : Mark) (n : Nat) : (m.forward n).column = m.column + n :=
  rfl

/-! ## Characters between quotes -/

/-- The quote that a scalar stands in. -/
def quoteOf (double : Bool) : Char := if double then '"' else '\''

/-- Whether a character stands for itself between quotes. -/
def fitsQuotes (double : Bool) (c : Char) : Bool :=
  isAllowed c && !isBreak c && c != quoteOf double && !(double && c == '\\')

/-- A quoted scalar on one line, without escapes. -/
structure Quoted where
  double : Bool
  content : Text
  fits : ∀ c ∈ content, fitsQuotes double c = true

/-- A quote before a text closes a scalar: a single quote before another one stands for itself. -/
def ClosesBefore (double : Bool) (rest : Text) : Prop := double = true ∨ rest.head? ≠ some '\''

namespace Quoted

/-- A scalar as it is written. -/
def text (q : Quoted) : Text := quoteOf q.double :: q.content ++ [quoteOf q.double]

/-- The number of characters that a scalar is written with. -/
def width (q : Quoted) : Nat := q.content.length + 2

/-- The style of a scalar. -/
def style (q : Quoted) : Style := if q.double then .doubleQuoted else .singleQuoted

end Quoted

section
variable {double : Bool} {since m : Mark} {fuel : Nat} {word text content rest : Text} {c : Char}

theorem fitsQuotes_iff : fitsQuotes double c = true ↔
    isAllowed c = true ∧ isBreak c = false ∧ c ≠ quoteOf double ∧ (double = true → c ≠ '\\') := by
  cases double <;> simp [fitsQuotes, and_assoc]

/-! ## Words and gaps -/

/-- A text goes on with the end of a word of a quoted scalar: with white space, or with the closing
quote. -/
inductive EndsWord (double : Bool) : Text → Prop where
  | space (c : Char) (rest : Text) (h : Text.isSpaceOrTab c = true) : EndsWord double (c :: rest)
  | quote (rest : Text) (h : ClosesBefore double rest) : EndsWord double (quoteOf double :: rest)

theorem quotedWord_char (hc : fitsQuotes double c = true) (hs : Text.isSpaceOrTab c = false) :
    quotedWord double since (fuel + 1) word ⟨c :: rest, m⟩ =
      quotedWord double since fuel (c :: word) ⟨rest, m.forward 1⟩ := by
  obtain ⟨_, hbreak, hquote, hslash⟩ := fitsQuotes_iff.mp hc
  cases double with
  | true =>
    have hquote' : c ≠ '"' := hquote
    simp [quotedWord, Cursor.peek, Cursor.forward, hs, hbreak, hquote', hslash rfl]
  | false =>
    have hquote' : c ≠ '\'' := hquote
    simp [quotedWord, Cursor.peek, Cursor.forward, hs, hbreak, hquote']

theorem quotedWord_end (h : EndsWord double rest) :
    quotedWord double since (fuel + 1) word ⟨rest, m⟩ = .ok (word, false, ⟨rest, m⟩) := by
  cases h with
  | space c rest h => simp [quotedWord, Cursor.peek, h]
  | quote rest h =>
    have hplain : (Text.isSpaceOrTab (quoteOf double) || isBreak (quoteOf double)) = false := by
      cases double <;> rfl
    rw [quotedWord]
    simp only [Cursor.peek, List.head?_cons, hplain]
    cases double with
    | true => rfl
    | false =>
      have hnext : (rest.head? == some '\'') = false := by simpa [ClosesBefore] using h
      simp [quoteOf, Cursor.peekAt, ← List.head?_eq_getElem?, hnext]

/-- A word is read as it stands. -/
theorem quotedWord_append {w : Text} (hfits : ∀ c ∈ w, fitsQuotes double c = true)
    (hspace : ∀ c ∈ w, Text.isSpaceOrTab c = false) (hend : EndsWord double rest)
    (hfuel : w.length < fuel) :
    quotedWord double since fuel word ⟨w ++ rest, m⟩ =
      .ok (w.reverse ++ word, false, ⟨rest, m.forward w.length⟩) := by
  induction w generalizing fuel word m with
  | nil =>
    obtain ⟨fuel, rfl⟩ := Nat.exists_eq_add_of_lt hfuel
    exact quotedWord_end hend
  | cons c w ih =>
    obtain ⟨fuel, rfl⟩ : ∃ n, fuel = n + 1 := ⟨fuel - 1, by omega⟩
    rw [List.cons_append,
      quotedWord_char (hfits c List.mem_cons_self) (hspace c List.mem_cons_self),
      ih (fun x hx => hfits x (List.mem_cons_of_mem c hx))
        (fun x hx => hspace x (List.mem_cons_of_mem c hx)) (Nat.lt_of_succ_lt_succ hfuel)]
    simp [Nat.add_comm]

theorem scanGap_space (hc : Text.isSpaceOrTab c = true) (spaces : Text) :
    scanGap none (c :: rest) m ⟨spaces, [], false⟩ =
      scanGap none rest (m.forward 1) ⟨c :: spaces, [], false⟩ := by
  have hreturn : c ≠ '\r' := by
    rintro rfl
    cases hc
  rw [scanGap]
  · simp [hc, Gap.space]
  · exact fun _ h _ => hreturn h

theorem scanGap_end (hr : ∀ c ∈ rest.head?, Text.isSpaceOrTab c = false ∧ isBreak c = false)
    (g : Gap) : scanGap none rest m g = .ok (g, ⟨rest, m⟩) := by
  cases rest with
  | nil => rfl
  | cons c rest =>
    obtain ⟨hspace, hbreak⟩ := hr c rfl
    have hreturn : c ≠ '\r' := by
      rintro rfl
      cases hbreak
    rw [scanGap]
    · simp [hspace, hbreak]
    · exact fun _ h _ => hreturn h

/-- A gap without line breaks is read as it stands. -/
theorem scanGap_append {s : Text} (hs : ∀ c ∈ s, Text.isSpaceOrTab c = true)
    (hr : ∀ c ∈ rest.head?, Text.isSpaceOrTab c = false ∧ isBreak c = false) (spaces : Text) :
    scanGap none (s ++ rest) m ⟨spaces, [], false⟩ =
      .ok (⟨s.reverse ++ spaces, [], false⟩, ⟨rest, m.forward s.length⟩) := by
  induction s generalizing m spaces with
  | nil => exact scanGap_end hr _
  | cons c s ih =>
    rw [List.cons_append, scanGap_space (hs c List.mem_cons_self),
      ih fun x hx => hs x (List.mem_cons_of_mem c hx)]
    simp [Nat.add_comm]

/-! ## The whole scalar -/

theorem atDocumentIndicator_eq_false (h : m.column ≠ 0) :
    Cursor.atDocumentIndicator ⟨rest, m⟩ = false := by
  simp [Cursor.atDocumentIndicator, Cursor.indicatorOf, h]

/-- The quote of a style is neither white space nor a line break. -/
theorem quoteOf_plain :
    Text.isSpaceOrTab (quoteOf double) = false ∧ isBreak (quoteOf double) = false := by
  cases double <;> exact ⟨rfl, rfl⟩

/-- One word, and what is done with what ends it. -/
theorem quotedWords_word {w : Text} (hfits : ∀ c ∈ w, fitsQuotes double c = true)
    (hspace : ∀ c ∈ w, Text.isSpaceOrTab c = false) (hend : EndsWord double rest)
    (hcolumn : m.column ≠ 0) :
    quotedWords double since (fuel + 1) text ⟨w ++ rest, m⟩ =
      if Cursor.sees ⟨rest, m.forward w.length⟩ (quoteOf double) then
        .ok (w.reverse ++ text, Cursor.forward ⟨rest, m.forward w.length⟩ 1)
      else
        match scanGap none rest (m.forward w.length) .none with
        | .error tab => .error (.within .quotedScalar since .plainTab tab)
        | .ok (gap, c) =>
          quotedWords double since fuel ((gap.fold false).reverse ++ (w.reverse ++ text)) c := by
  have hfuel : w.length < (w ++ rest).length + 1 := by
    rw [List.length_append]
    omega
  have hend' : rest ≠ [] := by
    rintro rfl
    cases hend
  rw [quotedWords, atDocumentIndicator_eq_false hcolumn]
  simp only [Cursor.atEnd, List.isEmpty_iff, List.append_eq_nil_iff, hend', and_false]
  rw [quotedWord_append hfits hspace hend hfuel]
  rfl

/-- The last word, which the closing quote ends. -/
theorem quotedWords_last {w : Text} (hfits : ∀ c ∈ w, fitsQuotes double c = true)
    (hspace : ∀ c ∈ w, Text.isSpaceOrTab c = false) (hcolumn : m.column ≠ 0)
    (hr : ClosesBefore double rest) :
    quotedWords double since (fuel + 1) text ⟨w ++ quoteOf double :: rest, m⟩ =
      .ok (w.reverse ++ text, ⟨rest, m.forward (w.length + 1)⟩) := by
  rw [quotedWords_word hfits hspace (.quote rest hr) hcolumn]
  simp [Cursor.sees, Cursor.forward]

/-- A word and the gap after it. -/
theorem quotedWords_gap {w s : Text} (hfits : ∀ c ∈ w, fitsQuotes double c = true)
    (hspace : ∀ c ∈ w, Text.isSpaceOrTab c = false) (hcolumn : m.column ≠ 0) (hs : s ≠ [])
    (hspaces : ∀ c ∈ s, Text.isSpaceOrTab c = true)
    (hr : ∀ c ∈ rest.head?, Text.isSpaceOrTab c = false ∧ isBreak c = false) :
    quotedWords double since (fuel + 1) text ⟨w ++ (s ++ rest), m⟩ =
      quotedWords double since fuel ((w ++ s).reverse ++ text)
        ⟨rest, m.forward (w ++ s).length⟩ := by
  obtain ⟨c, s', rfl⟩ := List.exists_cons_of_ne_nil hs
  have hc := hspaces c List.mem_cons_self
  have hquote : c ≠ quoteOf double := by
    rintro rfl
    rw [quoteOf_plain.1] at hc
    cases hc
  have hend : EndsWord double (c :: s' ++ rest) := .space c (s' ++ rest) hc
  rw [quotedWords_word hfits hspace hend hcolumn, if_neg (by simpa [Cursor.sees] using hquote),
    Gap.none, scanGap_append hspaces hr]
  simp [Gap.fold]

/-- A text is a word, a gap and other words; there are no other words without a gap. -/
theorem exists_word_gap (t : Text) : ∃ w s others, t = w ++ (s ++ others) ∧
    (∀ c ∈ w, Text.isSpaceOrTab c = false) ∧ (∀ c ∈ s, Text.isSpaceOrTab c = true) ∧
    (∀ c ∈ others.head?, Text.isSpaceOrTab c = false) ∧ (s = [] → others = []) := by
  let tail := t.dropWhile fun c => !Text.isSpaceOrTab c
  refine ⟨t.takeWhile fun c => !Text.isSpaceOrTab c, tail.takeWhile Text.isSpaceOrTab,
    tail.dropWhile Text.isSpaceOrTab, ?_, ?_, ?_, ?_, ?_⟩
  · rw [List.takeWhile_append_dropWhile, List.takeWhile_append_dropWhile]
  · intro c hc
    simpa using List.mem_takeWhile_imp hc
  · intro c hc
    exact List.mem_takeWhile_imp hc
  · intro c hc
    have := List.head?_dropWhile_not Text.isSpaceOrTab tail
    rw [hc] at this
    exact this
  · intro hs
    have hhead := List.head?_dropWhile_not (fun c => !Text.isSpaceOrTab c) t
    cases htail : tail with
    | nil => rfl
    | cons c rest =>
      rw [show t.dropWhile (fun c => !Text.isSpaceOrTab c) = c :: rest from htail] at hhead
      have hc : Text.isSpaceOrTab c = true := by simpa using hhead
      rw [htail, List.takeWhile_cons_of_pos hc] at hs
      cases hs

/-- The characters up to the closing quote are read as they stand. -/
theorem quotedWords_append (hfits : ∀ c ∈ content, fitsQuotes double c = true)
    (hcolumn : m.column ≠ 0) (hr : ClosesBefore double rest)
    (hfuel : content.length < fuel) :
    quotedWords double since fuel text ⟨content ++ quoteOf double :: rest, m⟩ =
      .ok (content.reverse ++ text, ⟨rest, m.forward (content.length + 1)⟩) := by
  -- Induction on the fuel, not on the content: a word and its gap go at once, for one unit of fuel.
  induction fuel generalizing content text m with
  | zero => cases hfuel
  | succ fuel ih =>
    obtain ⟨w, s, others, rfl, hw, hs, hhead, hlast⟩ := exists_word_gap content
    have hfitsw : ∀ c ∈ w, fitsQuotes double c = true := fun c hc =>
      hfits c (List.mem_append_left _ hc)
    by_cases hgap : s = []
    · obtain rfl := hlast hgap
      subst hgap
      rw [List.append_nil, List.append_nil]
      exact quotedWords_last hfitsw hw hcolumn hr
    · have hfitso : ∀ c ∈ others, fitsQuotes double c = true := fun c hc =>
        hfits c (List.mem_append_right _ (List.mem_append_right _ hc))
      have hnext : ∀ c ∈ (others ++ quoteOf double :: rest).head?,
          Text.isSpaceOrTab c = false ∧ isBreak c = false := by
        cases others with
        | nil =>
          rintro c ⟨⟩
          exact quoteOf_plain
        | cons c others =>
          rintro _ ⟨⟩
          exact ⟨hhead c rfl, (fitsQuotes_iff.mp (hfitso c List.mem_cons_self)).2.1⟩
      have hpos := List.length_pos_iff.mpr hgap
      have hcolumn' : (m.forward (w ++ s).length).column ≠ 0 := by
        rw [Mark.column_forward]
        omega
      have hfuel' : others.length < fuel := by
        simp only [List.length_append] at hfuel
        omega
      rw [List.append_assoc, List.append_assoc, quotedWords_gap hfitsw hw hcolumn hgap hs hnext,
        ih hfitso hcolumn' hfuel']
      simp [Nat.add_assoc]

end

namespace Quoted

/-- The token of a scalar that starts at a mark. -/
def token (q : Quoted) (m : Mark) : Token := ⟨.scalar q.content q.style, m, m.forward q.width⟩

/-- **A quoted scalar is read as it is written.**  A single quote after it would be part of it. -/
theorem scanQuoted_text (q : Quoted) {rest : Text} (m : Mark) (hr : ClosesBefore q.double rest) :
    scanQuoted q.double ⟨q.text ++ rest, m⟩ = .ok (q.token m, ⟨rest, m.forward q.width⟩) := by
  have hcolumn : (m.forward 1).column ≠ 0 := by
    rw [Mark.column_forward]
    omega
  have hfuel : q.content.length < (q.text ++ rest).length + 1 := by
    simp only [text, List.cons_append, List.length_cons, List.length_append]
    omega
  have hmark : (m.forward 1).forward (q.content.length + 1) = m.forward q.width := by
    rw [Mark.forward_forward, width]
    congr 1
    omega
  have hopen : Cursor.forward ⟨q.text ++ rest, m⟩ 1 =
      ⟨q.content ++ quoteOf q.double :: rest, m.forward 1⟩ := by
    simp [text, Cursor.forward]
  rw [scanQuoted, hopen, quotedWords_append q.fits hcolumn hr hfuel, hmark]
  simp [bind, Except.bind, pure, Except.pure, token, style]

theorem isAllowed_of_mem_text (q : Quoted) : ∀ c ∈ q.text, isAllowed c = true := by
  have hquote : isAllowed (quoteOf q.double) = true := by cases q.double <;> rfl
  intro c hc
  simp only [text, List.cons_append, List.mem_cons, List.mem_append, List.not_mem_nil,
    or_false] at hc
  rcases hc with rfl | hc | rfl
  · exact hquote
  · exact (fitsQuotes_iff.mp (q.fits c hc)).1
  · exact hquote

end Quoted
end GraphLint.Yaml
