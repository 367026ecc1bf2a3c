import GraphLint.Proofs.Yaml.Lexer
/-! # The tokens of a flat mapping

A flat mapping has one entry on each line: a key and a value in quotes, with a colon and a space
between them.  The lexer takes three steps for an entry.  The key becomes a candidate, the colon
turns the candidate into a key, and the value follows; only the first key opens the mapping.  From
these steps the tokens of all lines follow by induction (`Tokens.after_lines`), with whatever comes
after the lines left to be read.

Two ends are of interest: the end of the text (`Tokens.ofText_lines`), and a word right after the
value of an entry, which is a scalar where none may stand (`Tokens.exists_ofText_eq_of_word`). -/
namespace GraphLint.Yaml

/-! ## Entries -/

/-- An entry of a flat mapping: a key and a value in quotes, on one line. -/
structure Entry where
  key : Quoted
  value : Quoted
  /-- The key is near enough to its colon. -/
  near : key.width ≤ Candidate.reach

namespace Entry

/-- An entry as it is written, without the end of its line. -/
def text (e : Entry) : Text := e.key.text ++ ':' :: ' ' :: e.value.text

/-- The tokens of an entry that starts at a mark. -/
def tokens (e : Entry) (m : Mark) : List Token :=
  let colon := m.forward e.key.width
  [⟨.key, m, m⟩, e.key.token m, ⟨.value, colon, colon.forward 1⟩, e.value.token (colon.forward 2)]

/-- Where an entry that starts at a mark stops. -/
def stop (e : Entry) (m : Mark) : Mark := m.forward (e.key.width + 2 + e.value.width)

theorem isStale_eq_false (e : Entry) (required : Bool) (n : Nat) (m : Mark) :
    Candidate.isStale ⟨required, n, m⟩ (m.forward e.key.width) = false := by
  have hnear := e.near
  simp [Candidate.isStale, Mark.forward, hnear]

/-- The entries of a flat mapping as they are written, each on a line. -/
def linesText (es : List Entry) : Text := es.flatMap fun e => e.text ++ ['\n']

/-- The token that opens a mapping before its first entry. -/
def opening (first : Bool) (m : Mark) : List Token :=
  if first then [⟨.blockMappingStart, m, m⟩] else []

/-- The tokens of entries on lines, the first of which starts at a mark.  Before the first entry of
all a token opens the mapping. -/
def linesTokens : (first : Bool) → Mark → List Entry → List Token
  | _, _, [] => []
  | first, m, e :: es =>
    opening first m ++ e.tokens m ++ linesTokens false ((e.stop m).nextLine 1) es

/-- The mark after entries on lines. -/
def linesStop : Mark → List Entry → Mark
  | m, [] => m
  | m, e :: es => linesStop ((e.stop m).nextLine 1) es

theorem column_linesStop {m : Mark} (es : List Entry) (hm : m.column = 0) :
    (linesStop m es).column = 0 := by
  induction es generalizing m with
  | nil => exact hm
  | cons e es ih => exact ih rfl

/-- Lines with one more entry, the line of which does not end. -/
theorem linesTokens_concat (first : Bool) (m : Mark) (es : List Entry) (e : Entry) :
    linesTokens first m (es ++ [e]) = linesTokens first m es ++
      (opening (first && es.isEmpty) (linesStop m es) ++ e.tokens (linesStop m es)) := by
  induction es generalizing first m with
  | nil => simp [linesTokens, linesStop]
  | cons e' es ih => simp [linesTokens, linesStop, ih]

theorem isAllowed_of_mem_text (e : Entry) : ∀ c ∈ e.text, isAllowed c = true := by
  intro c hc
  simp only [text, List.mem_append, List.mem_cons] at hc
  rcases hc with hc | rfl | rfl | hc
  · exact e.key.isAllowed_of_mem_text c hc
  · rfl
  · rfl
  · exact e.value.isAllowed_of_mem_text c hc

theorem isAllowed_of_mem_linesText (es : List Entry) : ∀ c ∈ linesText es, isAllowed c = true := by
  intro c hc
  obtain ⟨e, _, hc⟩ := List.mem_flatMap.mp hc
  rcases List.mem_append.mp hc with hc | hc
  · exact e.isAllowed_of_mem_text c hc
  · rw [List.mem_singleton.mp hc]
    rfl

theorem exists_head?_eq (es : List Entry) (e : Entry) (rest : Text) :
    ∃ double, (linesText es ++ (e.text ++ rest)).head? = some (quoteOf double) := by
  cases es with
  | nil => exact ⟨e.key.double, rfl⟩
  | cons e' es => exact ⟨e'.key.double, rfl⟩

/-- Three steps are enough for the characters of each entry. -/
theorem three_mul_length_le (es : List Entry) : 3 * es.length ≤ (linesText es).length := by
  induction es with
  | nil => rfl
  | cons e es ih =>
    simp only [linesText, List.flatMap_cons, List.length_append, List.length_cons, text] at ih ⊢
    omega

end Entry

/-! ## The steps of the lexer -/

namespace Lexer
variable {first keyAllowed : Bool} {n : Nat} {held : List Token} {rest : Text} {m : Mark}

/-- A lexer outside brackets that waits for no colon: before the first entry of a flat mapping, or
further on. -/
def flat (first keyAllowed : Bool) (released : Nat) (held : List Token) (rest : Text) (m : Mark) :
    Lexer :=
  ⟨⟨rest, m⟩, none, [], if first then -1 else 0, if first then [] else [-1], keyAllowed, released,
    held⟩

/-- A lexer before the colon of a key that starts at the mark `since`. -/
def atColon (first : Bool) (released : Nat) (key : Token) (since : Mark) (rest : Text) (m : Mark) :
    Lexer :=
  { flat first false released [key] rest m with candidate := some ⟨!first, released, since⟩ }

theorem indent_flat_le : (flat first keyAllowed n held rest m).indent ≤ m.column := by
  cases first <;> simp [flat]

/-- A quoted scalar where a key may start becomes a candidate. -/
theorem next_key (q : Quoted) (hr : ClosesBefore q.double rest) (hm : m.column = 0) :
    (flat first true n [] (q.text ++ rest) m).next =
      .ok (atColon first n (q.token m) m rest (m.forward q.width)) := by
  have hhead : ∀ c ∈ (q.text ++ rest).head?, startsToken c = true := by
    rintro _ ⟨⟩
    exact startsToken_quoteOf q.double
  rw [next_eq (skipBlank_self hhead) (expireAll_of_none rfl rfl) indent_flat_le]
  change lexChar _ (quoteOf q.double) = _
  rw [lexChar_quote rfl, lexWord]
  have hscan := q.scanQuoted_text m hr
  cases first <;>
    simp [flat, addCandidate, dropCandidate, inFlow, mark, hm, hscan, push, atColon, bind,
      Except.bind, pure, Except.pure]

/-- A quoted scalar where no key may start. -/
theorem next_value (q : Quoted) (hr : ClosesBefore q.double rest) :
    (flat first false n [] (' ' :: (q.text ++ rest)) m).next =
      .ok (flat first false n [q.token (m.forward 1)] rest (m.forward (1 + q.width))) := by
  have hhead : ∀ c ∈ (q.text ++ rest).head?, startsToken c = true := by
    rintro _ ⟨⟩
    exact startsToken_quoteOf q.double
  have hcursor : (flat first false n [] (' ' :: (q.text ++ rest)) m).cursor =
      ⟨[' '] ++ (q.text ++ rest), m⟩ := rfl
  have hskip : (flat first false n [] (' ' :: (q.text ++ rest)) m).skipBlank
      ((' ' :: (q.text ++ rest)).length + 1) =
      flat first false n [] (q.text ++ rest) (m.forward 1) :=
    skipBlank_spaces hcursor (by simp) hhead
  rw [next_eq hskip (expireAll_of_none rfl rfl) indent_flat_le]
  change lexChar _ (quoteOf q.double) = _
  rw [lexChar_quote rfl, lexWord]
  have hscan := q.scanQuoted_text (m.forward 1) hr
  simp [flat, addCandidate, hscan, push, bind, Except.bind, pure, Except.pure]

/-- The colon turns the candidate into a key, and opens the mapping before the first key. -/
theorem next_colon {t : Token} {since : Mark}
    (hnear : Candidate.isStale ⟨!first, n, since⟩ m = false) (hsince : since.column = 0) :
    (atColon first n t since (':' :: ' ' :: rest) m).next =
      .ok (flat false false n (Entry.opening first since ++
        [⟨.key, since, since⟩, t, ⟨.value, m, m.forward 1⟩]) (' ' :: rest) (m.forward 1)) := by
  have hhead : ∀ c ∈ (':' :: ' ' :: rest).head?, startsToken c = true := by
    rintro _ ⟨⟩
    rfl
  have hindent : (atColon first n t since (':' :: ' ' :: rest) m).indent ≤ m.column := by
    cases first <;> simp [atColon, flat]
  rw [next_eq (skipBlank_self hhead) (expireAll_of_near rfl rfl hnear) hindent]
  change lexChar _ ':' = _
  rw [lexChar_colon rfl, lexValue]
  cases first <;>
    simp [atColon, flat, insertAt, openBlock, inFlow, mark, hsince, pushIndicator, push,
      Entry.opening, Cursor.forward, pure, Except.pure]

/-- A line break before the next entry. -/
theorem next_break (h : ∀ c ∈ rest.head?, startsToken c = true) :
    (flat first keyAllowed n [] ('\n' :: rest) m).next =
      (flat first true n [] rest (m.nextLine 1)).next := by
  have hskip : (flat first keyAllowed n [] ('\n' :: rest) m).skipBlank (('\n' :: rest).length + 1) =
      flat first true n [] rest (m.nextLine 1) :=
    skipBlank_break rfl rfl h
  rw [next_eq hskip (expireAll_of_none rfl rfl) indent_flat_le,
    next_eq (skipBlank_self h) (expireAll_of_none rfl rfl) indent_flat_le]

/-- The end of the stream closes the mapping. -/
theorem next_end (hm : m.column = 0) :
    (flat false keyAllowed n [] [] m).next =
      .ok (flat true false n [⟨.blockEnd, m, m⟩, ⟨.streamEnd, m, m⟩] [] m) := by
  have hhead : ∀ c ∈ ([] : Text).head?, startsToken c = true := nofun
  rw [next_eq (skipBlank_self hhead) (expireAll_of_none rfl rfl) indent_flat_le]
  simp [flat, Cursor.peek, lexEnd, mark, hm, leaveDocument, closeBlocks, closeBlocks.go, inFlow,
    dropCandidate, pushEmpty, push, bind, Except.bind, pure, Except.pure]

end Lexer

/-! ## From steps to lines -/

namespace Tokens
open Lexer
variable {first keyAllowed : Bool} {n fuel : Nat} {held : List Token} {rest : Text} {m : Mark}

/-- A lexer that waits for no colon releases all it has held back. -/
theorem read_flat (h : ∀ t ∈ held, t.kind ≠ .streamEnd) :
    read (fuel + 1) (flat first keyAllowed n held rest m) =
      (after fuel (flat first keyAllowed (n + held.length) [] rest m)).prepend held := by
  have hrelease : (flat first keyAllowed n held rest m).release =
      (held, flat first keyAllowed (n + held.length) [] rest m) := by
    simp [release, releasable, flat]
  exact read_eq (expireAll_of_none rfl rfl) hrelease h

/-- A lexer before a colon releases nothing. -/
theorem read_atColon {t : Token} {since : Mark}
    (hnear : Candidate.isStale ⟨!first, n, since⟩ m = false) :
    read (fuel + 1) (atColon first n t since rest m) =
      after fuel (atColon first n t since rest m) := by
  have hrelease : (atColon first n t since rest m).release =
      ([], atColon first n t since rest m) := by
    simp [release, releasable, atColon, flat]
  rw [read_eq (expireAll_of_near rfl rfl hnear) hrelease nofun, prepend_nil]

/-- The tokens of one entry. -/
theorem after_entry (e : Entry) (hr : ClosesBefore e.value.double rest)
    (hm : m.column = 0) :
    after (fuel + 3) (flat first true n [] (e.text ++ rest) m) =
      (after fuel (flat false false (n + (Entry.opening first m ++ e.tokens m).length) [] rest
        (e.stop m))).prepend (Entry.opening first m ++ e.tokens m) := by
  have htext : e.text ++ rest = e.key.text ++ ':' :: ' ' :: (e.value.text ++ rest) := by
    simp [Entry.text]
  have hcolon : ClosesBefore e.key.double (':' :: ' ' :: (e.value.text ++ rest)) :=
    Or.inr (by simp)
  have hnear := e.isStale_eq_false (!first) n m
  have hkinds : ∀ t ∈ Entry.opening first m ++ [⟨.key, m, m⟩, e.key.token m,
      ⟨.value, m.forward e.key.width, (m.forward e.key.width).forward 1⟩],
      t.kind ≠ .streamEnd := by
    cases first <;> simp [Entry.opening, Quoted.token]
  have hkind : ∀ t ∈ [e.value.token (((m.forward e.key.width).forward 1).forward 1)],
      t.kind ≠ .streamEnd := by
    simp [Quoted.token]
  have hstop : ((m.forward e.key.width).forward 1).forward (1 + e.value.width) = e.stop m := by
    simp only [Mark.forward_forward, Entry.stop]
    congr 1
    omega
  have htokens : Entry.opening first m ++ [⟨.key, m, m⟩, e.key.token m,
      ⟨.value, m.forward e.key.width, (m.forward e.key.width).forward 1⟩] ++
      [e.value.token (((m.forward e.key.width).forward 1).forward 1)] =
      Entry.opening first m ++ e.tokens m := by
    simp [Entry.tokens]
  -- The key is held until its colon is read; all else is released before the next step.
  rw [htext, after_of_next (next_key e.key hcolon hm), read_atColon hnear,
    after_of_next (next_colon hnear hm), read_flat hkinds,
    after_of_next (next_value e.value hr), read_flat hkind, prepend_prepend,
    hstop, Nat.add_assoc, ← List.length_append, htokens]

/-- The end of a line. -/
theorem after_break (h : ∀ c ∈ rest.head?, startsToken c = true) :
    after fuel (flat first keyAllowed n [] ('\n' :: rest) m) =
      after fuel (flat first true n [] rest (m.nextLine 1)) := by
  rw [after, after, next_break h]

/-- The tokens of entries on lines. -/
theorem after_lines (es : List Entry) (h : ∀ c ∈ rest.head?, startsToken c = true)
    (hm : m.column = 0) :
    after (fuel + 3 * es.length) (flat first true n [] (Entry.linesText es ++ rest) m) =
      (after fuel (flat (first && es.isEmpty) true (n + (Entry.linesTokens first m es).length) []
        rest (Entry.linesStop m es))).prepend (Entry.linesTokens first m es) := by
  induction es generalizing first n m with
  | nil => simp [Entry.linesText, Entry.linesTokens, Entry.linesStop]
  | cons e es ih =>
    have htext : Entry.linesText (e :: es) ++ rest =
        e.text ++ '\n' :: (Entry.linesText es ++ rest) := by
      simp [Entry.linesText]
    have hbreak : ClosesBefore e.value.double ('\n' :: (Entry.linesText es ++ rest)) :=
      Or.inr (by simp)
    have hnext : ∀ c ∈ (Entry.linesText es ++ rest).head?, startsToken c = true := by
      cases es with
      | nil => exact h
      | cons e' es =>
        rintro _ ⟨⟩
        exact startsToken_quoteOf e'.key.double
    have hfuel : fuel + 3 * (e :: es).length = fuel + 3 * es.length + 3 := by
      rw [List.length_cons]
      omega
    rw [htext, hfuel, after_entry e hbreak hm, after_break hnext, ih rfl, prepend_prepend]
    simp [Entry.linesTokens, Entry.linesStop, Nat.add_assoc]

/-- The end of a flat mapping. -/
theorem after_end (hm : m.column = 0) :
    after (fuel + 1) (flat false keyAllowed n [] [] m) = ⟨[⟨.blockEnd, m, m⟩], .ok m⟩ := by
  rw [after_of_next (next_end hm)]
  simp [read, flat, expireAll_of_none, release, releasable, mark]

/-! ## The tokens of a text -/

/-- A text that starts with a quote is read from its first character. -/
theorem ofText_eq_after {text : Text} {double : Bool} (hallowed : ∀ c ∈ text, isAllowed c = true)
    (hhead : text.head? = some (quoteOf double)) :
    ofText text = after (text.length + 2) (flat true true 0 [] text .origin) := by
  have hmark : text.head? ≠ some '\ufeff' := by
    rw [hhead]
    cases double <;> simp [quoteOf]
  have hstart : Lexer.start text = flat true true 0 [] text .origin := by
    simp [Lexer.start, Cursor.sees, hmark, flat]
  have hheld : ∀ t ∈ ([] : List Token), t.kind ≠ .streamEnd := by simp
  rw [ofText, badOffset?_eq_none hallowed, hstart]
  exact read_flat hheld

/-- A flat mapping is read to its end. -/
theorem ofText_lines {es : List Entry} (hes : es ≠ []) :
    ofText (Entry.linesText es) =
      Tokens.prepend (Entry.linesTokens true .origin es)
        ⟨[⟨.blockEnd, Entry.linesStop .origin es, Entry.linesStop .origin es⟩],
          .ok (Entry.linesStop .origin es)⟩ := by
  obtain ⟨e, es', rfl⟩ := List.exists_cons_of_ne_nil hes
  let text := Entry.linesText (e :: es')
  have hhead : text.head? = some (quoteOf e.key.double) := rfl
  have hlen : 3 * (e :: es').length ≤ text.length := Entry.three_mul_length_le (e :: es')
  obtain ⟨fuel, hfuel⟩ : ∃ fuel, text.length + 2 = fuel + 1 + 3 * (e :: es').length :=
    ⟨text.length + 1 - 3 * (e :: es').length, by omega⟩
  have hlines : after (fuel + 1 + 3 * (e :: es').length)
      (flat true true 0 [] (text ++ []) .origin) = _ := after_lines (e :: es') nofun rfl
  have hcolumn : (Entry.linesStop .origin (e :: es')).column = 0 := Entry.column_linesStop _ rfl
  rw [List.append_nil] at hlines
  rw [ofText_eq_after (Entry.isAllowed_of_mem_linesText _) hhead, hfuel, hlines]
  simp only [List.isEmpty_cons, Bool.and_false, after_end hcolumn]

/-- Tokens end with a fault before the first of them, or start with a scalar. -/
inductive Blocked : Tokens → Prop where
  | fault (f : Fault) : Blocked ⟨[], .error f⟩
  | scalar (t : Token) (ts : List Token) (ending : Except Fault Mark) (content : Text)
    (style : Style) (h : t.kind = .scalar content style) : Blocked ⟨t :: ts, ending⟩

/-- A plain scalar in a flat mapping, where no key may start. -/
theorem lexPlain_flat : (flat false false n [] rest m).lexPlain =
    match plainWords false 1 m (rest.length + 1) ⟨[], m, .none, ⟨rest, m⟩⟩ with
    | .error f => .error f
    | .ok s => .ok (flat false s.gap.broken n [⟨.scalar s.text.reverse .plain, m, s.stop⟩]
        s.cursor.rest s.cursor.mark) := by
  cases hwords : plainWords false 1 m (rest.length + 1) ⟨[], m, .none, ⟨rest, m⟩⟩ <;>
    simp [flat, lexPlain, addCandidate, scanPlain, inFlow, hwords, push, bind, Except.bind, pure,
      Except.pure]

/-- A word where a value has just ended. -/
theorem blocked_after_word :
    Blocked (after (fuel + 1) (flat false false n [] ('C' :: rest) m)) := by
  have hhead : ∀ c ∈ ('C' :: rest).head?, startsToken c = true := by
    rintro _ ⟨⟩
    rfl
  have hnext : (flat false false n [] ('C' :: rest) m).next =
      (flat false false n [] ('C' :: rest) m).lexPlain := by
    rw [next_eq (skipBlank_self hhead) (expireAll_of_none rfl rfl) indent_flat_le]
    simp [flat, Cursor.peek, lexChar, Cursor.indicatorOf, Cursor.peekAt, startsPlain,
      Text.isSpaceOrTab, isBreak, isFlowIndicator]
  rw [after, hnext, lexPlain_flat]
  -- How far the word goes is of no matter: it is either no scalar at all, or one.
  cases plainWords false 1 m (('C' :: rest).length + 1) ⟨[], m, .none, ⟨'C' :: rest, m⟩⟩ with
  | error f => exact .fault f
  | ok s =>
    have hkinds : ∀ t ∈ [(⟨.scalar s.text.reverse .plain, m, s.stop⟩ : Token)],
        t.kind ≠ .streamEnd := by
      simp
    change Blocked (read (fuel + 1) _)
    rw [read_flat hkinds]
    exact .scalar _ _ _ s.text.reverse .plain rfl

/-- **A word directly after the value of an entry** is a scalar where none may stand. -/
theorem exists_ofText_eq_of_word (es : List Entry) (e : Entry)
    (hr : ∀ c ∈ rest, isAllowed c = true) :
    ∃ ts : Tokens, ts.Blocked ∧ ofText (Entry.linesText es ++ (e.text ++ 'C' :: rest)) =
      ts.prepend (Entry.linesTokens true .origin (es ++ [e])) := by
  let text := Entry.linesText es ++ (e.text ++ 'C' :: rest)
  have hallowed : ∀ c ∈ text, isAllowed c = true := by
    intro c hc
    simp only [text, List.mem_append, List.mem_cons] at hc
    rcases hc with hc | hc | rfl | hc
    · exact Entry.isAllowed_of_mem_linesText es c hc
    · exact e.isAllowed_of_mem_text c hc
    · rfl
    · exact hr c hc
  obtain ⟨double, hhead⟩ := Entry.exists_head?_eq es e ('C' :: rest)
  have hlen := Entry.three_mul_length_le es
  have htext : text.length =
      (Entry.linesText es).length + (e.text.length + (rest.length + 1)) := by
    simp [text]
  have hentry : 6 ≤ e.text.length := by
    simp only [Entry.text, Quoted.text, List.length_append, List.length_cons]
    omega
  obtain ⟨fuel, hfuel⟩ : ∃ fuel, text.length + 2 = fuel + 1 + 3 + 3 * es.length :=
    ⟨text.length - 2 - 3 * es.length, by omega⟩
  have hstart : ∀ c ∈ (e.text ++ 'C' :: rest).head?, startsToken c = true := by
    rintro _ ⟨⟩
    exact startsToken_quoteOf e.key.double
  have hcolumn : (Entry.linesStop .origin es).column = 0 := Entry.column_linesStop es rfl
  have hword : ClosesBefore e.value.double ('C' :: rest) := Or.inr (by simp)
  rw [ofText_eq_after hallowed hhead, hfuel, after_lines es hstart rfl,
    after_entry e hword hcolumn, prepend_prepend, Entry.linesTokens_concat]
  exact ⟨_, blocked_after_word, rfl⟩

end Tokens
end GraphLint.Yaml
