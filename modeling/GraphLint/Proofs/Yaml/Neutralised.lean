import GraphLint.Proofs.Expression.Context
import GraphLint.Proofs.Yaml.FlatMapping
/-! # Expressions in a flat mapping

The placeholder that stands for an expression is a scalar in single quotes.  Where it takes the
place of a whole value, or stands among other characters in double quotes, the entry stays an entry.
In single quotes it does not: its own first quote ends the scalar that it stands in, and a word
follows (`Quoted.exists_neutralise_text_of_breaks`).  And as there is but one placeholder, keys that
differ in nothing but their expressions become one key.

For a flat mapping these are all the ways in which neutralising can do harm, and
`Line.failure?_neutralise_linesText` says which of them is met first.  Both happen to texts that are
YAML as they stand (`QuotedLine.fault_of_breaks`, `QuotedLine.repeated_of_neutralise_eq`). -/
namespace GraphLint.Yaml
open Expression

/-! ## Expressions in a quoted scalar -/

/-- What the placeholder is when it is read as YAML. -/
def placeholderScalar : Quoted where
  double := false
  content := "CEL_EXPRESSION".toList
  fits := List.all_eq_true.mp (by decide)

/-- The placeholder may stand in double quotes. -/
theorem fitsQuotes_placeholder : ∀ c ∈ placeholder, fitsQuotes true c = true :=
  List.all_eq_true.mp (by decide)

theorem isAllowed_placeholder : ∀ c ∈ placeholder, isAllowed c = true := fun c hc =>
  (fitsQuotes_iff.mp (fitsQuotes_placeholder c hc)).1

namespace Quoted

/-- A scalar once its expressions are neutralised.  In single quotes the first placeholder ends
it. -/
def neutralised (q : Quoted) : Quoted where
  double := q.double
  content := if q.double then neutralise q.content else lead q.content
  fits := by
    intro c hc
    cases hd : q.double with
    | true =>
      rw [hd, if_pos rfl] at hc
      rcases mem_or_mem_placeholder hc with hc | hc
      · exact hd ▸ q.fits c hc
      · exact fitsQuotes_placeholder c hc
    | false =>
      rw [hd, if_neg Bool.false_ne_true] at hc
      exact hd ▸ q.fits c (mem_of_mem_lead hc)

/-- Whether a placeholder ends a scalar too early. -/
def breaks (q : Quoted) : Bool := !q.double && hasPair q.content

variable {q : Quoted}

theorem quoteOf_ne_brace (double : Bool) : quoteOf double ≠ '{' := by
  cases double <;> simp [quoteOf]

theorem closed_text (h : Closed q.content) : Closed q.text := by
  have hquote := closed_cons (quoteOf_ne_brace q.double) (t := []) (by decide)
  exact closed_append (closed_cons (quoteOf_ne_brace q.double) h) hquote

/-- The content of a scalar is neutralised as if it stood alone. -/
theorem neutralise_text (h : Closed q.content) :
    neutralise q.text = quoteOf q.double :: (neutralise q.content ++ [quoteOf q.double]) := by
  have hquote (rest : Text) : neutralise (quoteOf q.double :: rest) =
      quoteOf q.double :: neutralise rest :=
    neutralise_cons (pairBody?_eq_none_of_ne (quoteOf_ne_brace q.double) rest)
  rw [text, List.cons_append, hquote, neutralise_append h, hquote]
  rfl

/-- A scalar that no placeholder ends is neutralised as a scalar. -/
theorem neutralise_text_of_not_breaks (h : Closed q.content) (hb : q.breaks = false) :
    neutralise q.text = q.neutralised.text := by
  rw [neutralise_text h]
  cases hd : q.double with
  | true => simp [neutralised, text, hd]
  | false =>
    have hpair : hasPair q.content = false := by simpa [breaks, hd] using hb
    simp [neutralised, text, hd, neutralise_eq_lead hpair]

/-- A scalar that a placeholder ends has the rest of the placeholder after it. -/
theorem exists_neutralise_text_of_breaks (h : Closed q.content) (hb : q.breaks = true) :
    ∃ rest, neutralise q.text = q.neutralised.text ++ 'C' :: rest := by
  obtain ⟨hd, hpair⟩ : q.double = false ∧ hasPair q.content = true := by simpa [breaks] using hb
  obtain ⟨rest, hrest⟩ := exists_neutralise_eq_lead_append hpair
  obtain ⟨tail, htail⟩ : ∃ tail, placeholder = '\'' :: 'C' :: tail := ⟨_, rfl⟩
  refine ⟨tail ++ rest ++ ['\''], ?_⟩
  rw [neutralise_text h, hrest, htail]
  simp [neutralised, text, hd, quoteOf]

/-- The characters of a neutralised scalar may stand in a stream. -/
theorem isAllowed_of_mem_neutralise_text (q : Quoted) :
    ∀ c ∈ neutralise q.text, isAllowed c = true := by
  intro c hc
  rcases mem_or_mem_placeholder hc with hc | hc
  · exact q.isAllowed_of_mem_text c hc
  · exact isAllowed_placeholder c hc

end Quoted

/-! ## Lines -/

/-- How the value of an entry is written before its expressions are neutralised. -/
inductive Written where
  /-- In quotes, any expressions among other characters. -/
  | quoted (q : Quoted) (closed : Closed q.content)
  /-- As one expression without quotes, of whatever characters. -/
  | bare (body : Text) (close : '}' ∉ body)

namespace Written

/-- A value as it is written. -/
def text : Written → Text
  | quoted q _ => q.text
  | bare body _ => (Segment.pair body).text

/-- A value once its expressions are neutralised, as far as it is a scalar. -/
def neutralised : Written → Quoted
  | quoted q _ => q.neutralised
  | bare _ _ => placeholderScalar

/-- Whether a placeholder ends a value too early. -/
def breaks : Written → Bool
  | quoted q _ => q.breaks
  | bare _ _ => false

theorem closed_text (w : Written) : Closed w.text := by
  cases w with
  | quoted q closed => exact Quoted.closed_text closed
  | bare body close => exact closed_pair close

theorem neutralise_bare {body : Text} (close : '}' ∉ body) :
    neutralise (Segment.pair body).text = placeholder := by
  have := neutralise_pair close []
  rwa [List.append_nil, show neutralise [] = [] from rfl, List.append_nil] at this

theorem neutralise_text_of_not_breaks {w : Written} (hb : w.breaks = false) :
    neutralise w.text = w.neutralised.text := by
  cases w with
  | quoted q closed => exact Quoted.neutralise_text_of_not_breaks closed hb
  | bare body close => exact neutralise_bare close

theorem exists_neutralise_text_of_breaks {w : Written} (hb : w.breaks = true) :
    ∃ rest, neutralise w.text = w.neutralised.text ++ 'C' :: rest := by
  cases w with
  | quoted q closed => exact Quoted.exists_neutralise_text_of_breaks closed hb
  | bare body close => cases hb

theorem isAllowed_of_mem_neutralise_text (w : Written) :
    ∀ c ∈ neutralise w.text, isAllowed c = true := by
  cases w with
  | quoted q closed => exact q.isAllowed_of_mem_neutralise_text
  | bare body close =>
    intro c hc
    rw [text, neutralise_bare close] at hc
    exact isAllowed_placeholder c hc

end Written

/-- A line of a flat mapping, with expressions: a key in double quotes, and a value. -/
structure Line where
  key : Quoted
  value : Written
  double : key.double = true
  closed : Closed key.content
  /-- The key is near enough to its colon once its expressions are neutralised. -/
  near : key.neutralised.width ≤ Candidate.reach

namespace Line

/-- A line as it is written, without its end. -/
def text (l : Line) : Text := l.key.text ++ ':' :: ' ' :: l.value.text

/-- Lines as they are written. -/
def linesText (ls : List Line) : Text := ls.flatMap fun l => l.text ++ ['\n']

/-- The entry of a line once its expressions are neutralised, as far as it is one. -/
def entry (l : Line) : Entry := ⟨l.key.neutralised, l.value.neutralised, l.near⟩

/-- The key of a line once its expressions are neutralised. -/
def neutralKey (l : Line) : Text := neutralise l.key.content

/-- Whether a placeholder ends the value of a line too early. -/
def breaks (l : Line) : Bool := l.value.breaks

/-- The lines up to the first one whose value breaks, that one included. -/
def upToBreak : List Line → List Line
  | [] => []
  | l :: rest => if l.breaks then [l] else l :: upToBreak rest

variable {l : Line} {ls : List Line}

theorem neutralKey_eq (l : Line) : l.entry.key.content = l.neutralKey := by
  change (if l.key.double then neutralise l.key.content else lead l.key.content) = _
  rw [if_pos l.double]
  rfl

/-- A line is neutralised part by part. -/
theorem neutralise_text (l : Line) :
    neutralise l.text = l.entry.key.text ++ ':' :: ' ' :: neutralise l.value.text := by
  have hbreaks : l.key.breaks = false := by simp [Quoted.breaks, l.double]
  rw [text, neutralise_append (Quoted.closed_text l.closed),
    Quoted.neutralise_text_of_not_breaks l.closed hbreaks,
    neutralise_cons (pairBody?_eq_none_of_ne (by decide) _),
    neutralise_cons (pairBody?_eq_none_of_ne (by decide) _)]
  rfl

theorem closed_text (l : Line) : Closed l.text :=
  closed_append (Quoted.closed_text l.closed)
    (closed_cons (by decide) (closed_cons (by decide) l.value.closed_text))

theorem isAllowed_of_mem_neutralise_text (l : Line) :
    ∀ c ∈ neutralise l.text, isAllowed c = true := by
  intro c hc
  rw [neutralise_text, List.mem_append, List.mem_cons, List.mem_cons] at hc
  rcases hc with hc | rfl | rfl | hc
  · exact l.entry.key.isAllowed_of_mem_text c hc
  · rfl
  · rfl
  · exact l.value.isAllowed_of_mem_neutralise_text c hc

/-- A line without a break is neutralised as an entry. -/
theorem neutralise_text_of_not_breaks (hb : l.breaks = false) :
    neutralise l.text = l.entry.text := by
  rw [neutralise_text, Written.neutralise_text_of_not_breaks hb]
  rfl

/-- A line with a break is an entry with the rest of a placeholder after it. -/
theorem exists_neutralise_text_of_breaks (hb : l.breaks = true) :
    ∃ rest, neutralise l.text = l.entry.text ++ 'C' :: rest := by
  obtain ⟨rest, hrest⟩ := Written.exists_neutralise_text_of_breaks hb
  refine ⟨rest, ?_⟩
  rw [neutralise_text, hrest]
  simp [Entry.text, entry]

/-! ## All lines -/

theorem linesText_cons (l : Line) (ls : List Line) :
    linesText (l :: ls) = l.text ++ '\n' :: linesText ls := by
  simp [linesText]

/-- Lines are neutralised one by one. -/
theorem neutralise_linesText_cons (l : Line) (ls : List Line) :
    neutralise (linesText (l :: ls)) = neutralise l.text ++ '\n' :: neutralise (linesText ls) := by
  rw [linesText_cons, neutralise_append l.closed_text,
    neutralise_cons (pairBody?_eq_none_of_ne (by decide) _)]

theorem isAllowed_of_mem_neutralise_linesText (ls : List Line) :
    ∀ c ∈ neutralise (linesText ls), isAllowed c = true := by
  induction ls with
  | nil => exact nofun
  | cons l ls ih =>
    intro c hc
    rw [neutralise_linesText_cons, List.mem_append, List.mem_cons] at hc
    rcases hc with hc | rfl | hc
    · exact l.isAllowed_of_mem_neutralise_text c hc
    · rfl
    · exact ih c hc

/-- Lines without a break are neutralised as entries, whatever follows them. -/
theorem neutralise_linesText_append (hls : ∀ l ∈ ls, l.breaks = false) (others : List Line) :
    neutralise (linesText (ls ++ others)) =
      Entry.linesText (ls.map entry) ++ neutralise (linesText others) := by
  induction ls with
  | nil => rfl
  | cons l ls ih =>
    rw [List.cons_append, neutralise_linesText_cons,
      neutralise_text_of_not_breaks (hls l List.mem_cons_self),
      ih fun x hx => hls x (List.mem_cons_of_mem l hx)]
    simp [Entry.linesText]

/-- Either no value breaks, or one of them is the first. -/
theorem breaks_cases (ls : List Line) :
    (∀ l ∈ ls, l.breaks = false) ∧ upToBreak ls = ls ∨
      ∃ before l others, ls = before ++ l :: others ∧ (∀ b ∈ before, b.breaks = false) ∧
        l.breaks = true ∧ upToBreak ls = before ++ [l] := by
  induction ls with
  | nil => exact Or.inl ⟨nofun, rfl⟩
  | cons l ls ih =>
    cases hl : l.breaks with
    | true => exact Or.inr ⟨[], l, ls, rfl, nofun, hl, by rw [upToBreak, if_pos hl]; rfl⟩
    | false =>
      have hup : upToBreak (l :: ls) = l :: upToBreak ls := by
        rw [upToBreak, hl, if_neg Bool.false_ne_true]
      rcases ih with ⟨hls, hup'⟩ | ⟨before, l', others, rfl, hbefore, hl', hup'⟩
      · exact Or.inl ⟨List.forall_mem_cons.mpr ⟨hl, hls⟩, by rw [hup, hup']⟩
      · refine Or.inr ⟨l :: before, l', others, rfl, ?_, hl', by rw [hup, hup']; rfl⟩
        exact List.forall_mem_cons.mpr ⟨hl, hbefore⟩

theorem map_neutralKey (ls : List Line) :
    (ls.map entry).map (·.key.content) = ls.map neutralKey := by
  rw [List.map_map]
  exact List.map_congr_left fun l _ => neutralKey_eq l

/-- **What is wrong with a flat mapping whose expressions are neutralised**: the first key that
repeats, if one does up to the first value that breaks; else that break, if there is one. -/
theorem failure?_neutralise_linesText (ls : List Line) :
    ∃ f, failure? (neutralise (linesText ls)) =
      match firstRepeated? [] ((upToBreak ls).map neutralKey) with
      | some key => some (repeated .origin key)
      | none => if ls.any breaks then some (.fault f) else none := by
  rcases breaks_cases ls with ⟨hls, hup⟩ | ⟨before, l, others, rfl, hbefore, hl, hup⟩
  · have hany : ls.any breaks = false := by simpa using hls
    have htext := neutralise_linesText_append hls []
    rw [List.append_nil] at htext
    refine ⟨.at .noToken .origin, ?_⟩
    rw [htext, show neutralise (linesText []) = [] from rfl, List.append_nil, failure?_lines,
      map_neutralKey, hup, hany]
    cases firstRepeated? [] (ls.map neutralKey) <;> rfl
  · have hany : (before ++ l :: others).any breaks = true :=
      List.any_eq_true.mpr ⟨l, by simp, hl⟩
    obtain ⟨rest, hrest⟩ := exists_neutralise_text_of_breaks hl
    have htext : neutralise (linesText (l :: others)) =
        l.entry.text ++ 'C' :: (rest ++ '\n' :: neutralise (linesText others)) := by
      rw [neutralise_linesText_cons, hrest]
      simp
    -- Of what follows the break nothing matters but that its characters may stand in a stream.
    have hallowed : ∀ c ∈ rest ++ '\n' :: neutralise (linesText others), isAllowed c = true := by
      intro c hc
      refine isAllowed_of_mem_neutralise_linesText (l :: others) c ?_
      rw [htext]
      exact List.mem_append_right _ (List.mem_cons_of_mem _ hc)
    obtain ⟨f, hf⟩ := failure?_of_word (before.map entry) l.entry hallowed
    have hkeys : (before.map entry ++ [l.entry]).map (·.key.content) =
        (before ++ [l]).map neutralKey := by
      rw [← List.map_singleton, ← List.map_append, map_neutralKey]
    refine ⟨f, ?_⟩
    rw [neutralise_linesText_append hbefore, htext, hf, hkeys, hup, hany]
    cases firstRepeated? [] ((before ++ [l]).map neutralKey) <;> rfl

/-- **Neutralising breaks the form of a flat mapping** exactly if an expression stands in single
quotes and no two keys up to there differ in nothing but their expressions. -/
theorem exists_fault_iff (ls : List Line) :
    (∃ f, failure? (neutralise (linesText ls)) = some (.fault f)) ↔
      (∃ l ∈ ls, l.breaks = true) ∧ ((upToBreak ls).map neutralKey).Nodup := by
  obtain ⟨f, hf⟩ := failure?_neutralise_linesText ls
  rw [hf, ← firstRepeated?_nil_eq_none_iff, ← List.any_eq_true]
  cases firstRepeated? [] ((upToBreak ls).map neutralKey) with
  | some key => simp [repeated]
  | none => cases ls.any breaks <;> simp

/-- **Neutralising makes keys of a flat mapping collide** exactly if two of them, up to the first
expression in single quotes, differ in nothing but their expressions. -/
theorem exists_duplicateKey_iff (ls : List Line) :
    (∃ key path m,
      failure? (neutralise (linesText ls)) = some (.value (.duplicateKey key) path m)) ↔
      ¬ ((upToBreak ls).map neutralKey).Nodup := by
  obtain ⟨f, hf⟩ := failure?_neutralise_linesText ls
  rw [hf, ← firstRepeated?_nil_eq_none_iff]
  cases firstRepeated? [] ((upToBreak ls).map neutralKey) with
  | some key => simp [repeated]
  | none => cases ls.any breaks <;> simp

end Line

/-! ## Texts that are YAML as they stand -/

/-- A line whose value stands in quotes, so that it is an entry as it stands. -/
structure QuotedLine extends Entry where
  double : key.double = true
  closedKey : Closed key.content
  closedValue : Closed value.content
  /-- The key is near enough to its colon once its expressions are neutralised. -/
  nearNeutral : key.neutralised.width ≤ Candidate.reach

namespace QuotedLine
variable {l l' : QuotedLine}

/-- A line with a value in quotes is a line. -/
def line (l : QuotedLine) : Line :=
  ⟨l.key, .quoted l.value l.closedValue, l.double, l.closedKey, l.nearNeutral⟩

/-- Lines with values in quotes as they are written. -/
def linesText (ls : List QuotedLine) : Text := Line.linesText (ls.map line)

theorem linesText_eq (ls : List QuotedLine) : linesText ls = Entry.linesText (ls.map toEntry) := by
  simp only [linesText, Line.linesText, Entry.linesText, List.flatMap_map]
  rfl

/-- As they stand such lines are YAML exactly if no key repeats. -/
theorem check_linesText_eq_ok_iff (ls : List QuotedLine) :
    check (linesText ls) = .ok () ↔ (ls.map (·.key.content)).Nodup := by
  rw [check_eq_ok_iff, linesText_eq, failure?_lines, Option.map_eq_none_iff,
    firstRepeated?_nil_eq_none_iff, List.map_map]
  rfl

/-- **Whatever expression stands in single quotes**, its line is YAML as it stands, and is none once
the expression is neutralised: the placeholder brings the quotes that end the scalar. -/
theorem fault_of_breaks (hb : l.value.breaks = true) :
    check (linesText [l]) = .ok () ∧
      ∃ f, failure? (neutralise (linesText [l])) = some (.fault f) := by
  obtain ⟨f, hf⟩ := Line.failure?_neutralise_linesText [l.line]
  have hb' : l.line.breaks = true := hb
  have hany : [l.line].any Line.breaks = true := by simp [hb']
  have hup : Line.upToBreak [l.line] = [l.line] := by simp [Line.upToBreak]
  rw [hup, hany] at hf
  exact ⟨(check_linesText_eq_ok_iff [l]).mpr (List.pairwise_singleton _ _), f, hf⟩

/-- One line with an expression in single quotes. -/
def singleQuoted : Text := "\"a\": '\x7b\x7b x \x7d\x7d'\n".toList

theorem fault_singleQuoted :
    check singleQuoted = .ok () ∧ ∃ f, failure? (neutralise singleQuoted) = some (.fault f) := by
  let l : QuotedLine :=
    { key := ⟨true, ['a'], List.all_eq_true.mp (by decide)⟩
      value := ⟨false, (Segment.pair [' ', 'x', ' ']).text, List.all_eq_true.mp (by decide)⟩
      near := by decide
      double := rfl
      closedKey := by decide
      closedValue := by decide
      nearNeutral := by decide }
  have htext : singleQuoted = linesText [l] := by decide
  rw [htext]
  exact fault_of_breaks (by decide)

/-- **Whatever keys differ in nothing but their expressions**, their lines are YAML as they stand,
and are none once the expressions are neutralised: the one key stands there twice. -/
theorem repeated_of_neutralise_eq (hkey : l.key.content ≠ l'.key.content)
    (hneutral : neutralise l.key.content = neutralise l'.key.content)
    (hb : l.value.breaks = false) :
    check (linesText [l, l']) = .ok () ∧
      failure? (neutralise (linesText [l, l'])) =
        some (repeated .origin (neutralise l.key.content)) := by
  obtain ⟨f, hf⟩ := Line.failure?_neutralise_linesText [l.line, l'.line]
  have hup : Line.upToBreak [l.line, l'.line] = [l.line, l'.line] := by
    have hb' : l.line.breaks = false := hb
    simp [Line.upToBreak, hb']
  have hrepeated : firstRepeated? [] ([l.line, l'.line].map Line.neutralKey) =
      some (neutralise l.key.content) := by
    have hl : l.line.neutralKey = neutralise l.key.content := rfl
    have hl' : l'.line.neutralKey = neutralise l.key.content := hneutral.symm
    simp [firstRepeated?, hl, hl']
  rw [hup, hrepeated] at hf
  exact ⟨(check_linesText_eq_ok_iff [l, l']).mpr (by simpa using hkey), hf⟩

/-- Two lines whose keys are two expressions. -/
def twoKeys : Text :=
  "\"\x7b\x7b a \x7d\x7d\": \"1\"\n\"\x7b\x7b b \x7d\x7d\": \"2\"\n".toList

theorem repeated_twoKeys :
    check twoKeys = .ok () ∧
      failure? (neutralise twoKeys) = some (repeated .origin placeholder) := by
  let l : QuotedLine :=
    { key := ⟨true, (Segment.pair [' ', 'a', ' ']).text, List.all_eq_true.mp (by decide)⟩
      value := ⟨true, ['1'], List.all_eq_true.mp (by decide)⟩
      near := by decide
      double := rfl
      closedKey := by decide
      closedValue := by decide
      nearNeutral := by decide }
  let l' : QuotedLine :=
    { key := ⟨true, (Segment.pair [' ', 'b', ' ']).text, List.all_eq_true.mp (by decide)⟩
      value := ⟨true, ['2'], List.all_eq_true.mp (by decide)⟩
      near := by decide
      double := rfl
      closedKey := by decide
      closedValue := by decide
      nearNeutral := by decide }
  have htext : twoKeys = linesText [l, l'] := by decide
  have hneutral : neutralise l.key.content = placeholder := by decide
  rw [htext, ← hneutral]
  exact repeated_of_neutralise_eq (by decide) (by decide) (by decide)

end QuotedLine
end GraphLint.Yaml
