import GraphLint.Proofs.Schema.Block
import GraphLint.Proofs.Text.Pattern
/-! # The pattern of a block

The rules about the fields of blocks were written as a pattern over the whole text, and are carried out
line by line.  The two are the same: what the search for `blockPattern` finds is the text of the first
block (`find?_blockPattern_eq_some_iff`).

The pattern can go astray in three places, and comes out right in each.  The spaces before a key may be
given back to the key, which ends the line in the same place (`keyPattern_absorbs`); the spaces behind
a header are followed by the end of the line only where there are no more of them
(`first?_underHeader`); and what is left of a key line holds no line feed, so the next key line follows
at its end and nowhere else (`first?_keyLines`). -/
namespace GraphLint

namespace Text

/-- Lines as they follow another one, each behind its line feed. -/
def continued (ls : List Text) : Text := ls.flatMap ('\n' :: ·)

theorem joinLines_cons (line : Text) (ls : List Text) :
    joinLines (line :: ls) = line ++ continued ls := by
  induction ls generalizing line with
  | nil => exact (List.append_nil line).symm
  | cons next ls ih =>
    change line ++ '\n' :: joinLines (next :: ls) = _
    rw [ih]
    rfl

theorem continued_cons (line : Text) (ls : List Text) :
    continued (line :: ls) = '\n' :: (line ++ continued ls) := rfl

theorem length_continued_lt (line : Text) (ls : List Text) :
    (continued ls).length < (continued (line :: ls)).length := by
  rw [continued_cons, List.length_cons, List.length_append]
  omega

/-- What follows a line is nothing or starts with a line feed. -/
def EndsLine (t : Text) : Prop := ∀ c ∈ t.head?, c = '\n'

theorem endsLine_continued (ls : List Text) : EndsLine (continued ls) := by
  cases ls with
  | nil => exact nofun
  | cons line ls =>
    rintro c hc
    exact (Option.some.inj hc).symm

/-- A part without a line feed lies in one of the lines. -/
theorem isInfix_joinLines_iff {part : Text} (h : '\n' ∉ part) (line : Text) (ls : List Text) :
    part <:+: joinLines (line :: ls) ↔ ∃ l ∈ line :: ls, part <:+: l := by
  rw [joinLines_cons]
  induction ls generalizing line with
  | nil => simp [continued]
  | cons next ls ih =>
    rw [continued_cons, isInfix_append_cons_iff h, ih, List.exists_mem_cons_iff _ line]

/-- Every text is a line and what follows it. -/
theorem exists_eq_append_endsLine (t : Text) :
    ∃ line tail, t = line ++ tail ∧ '\n' ∉ line ∧ EndsLine tail := by
  by_cases h : '\n' ∈ t
  · obtain ⟨line, rest, rfl, hline⟩ := List.eq_append_cons_of_mem h
    refine ⟨line, '\n' :: rest, rfl, hline, ?_⟩
    rintro c hc
    exact (Option.some.inj hc).symm
  · exact ⟨t, [], (List.append_nil t).symm, h, nofun⟩

end Text

namespace Schema
open Text (Place Pattern continued EndsLine)

variable {name : String} {line head tail : Text} {ls body : List Text} {i : Nat}

/-! ## The pattern -/

/-- A character of a key. -/
def isKeyChar (c : Char) : Bool := c != ':' && c != '\n'

/-- A colon and the rest of the line. -/
def colonPattern : Pattern := (Pattern.only ':').seq (Pattern.char (· != '\n')).many

/-- A key, its colon and the rest of the line: `[^:\n]+:[^\n]*`. -/
def keyPattern : Pattern := (Pattern.char isKeyChar).oneOrMore.seq colonPattern

/-- A key line behind its line feed: `\n[ \t]+[^:\n]+:[^\n]*`. -/
def keyLinePattern : Pattern :=
  (Pattern.only '\n').seq ((Pattern.char Text.isSpaceOrTab).oneOrMore.seq keyPattern)

/-- A carriage return, if there is one, and key lines: `\r?(\n[ \t]+[^:\n]+:[^\n]*)+`. -/
def runPattern : Pattern := (Pattern.only '\r').optional.seq keyLinePattern.oneOrMore

/-- A header and the key lines under it, from the start of a line on.  Of the block `metadata` it is
`^metadata:[ \t]*\r?(\n[ \t]+[^:\n]+:[^\n]*)+`. -/
def blockPattern (name : String) : Pattern :=
  Pattern.lineStart.seq
    ((Pattern.word (header name)).seq ((Pattern.char Text.isSpaceOrTab).many.seq runPattern))

/-! ## Key lines -/

section Keys
variable {before t : Text}

/-- No kind of characters without the line feed goes on where a line ends. -/
theorem first?_char_seq_of_endsLine {kind : Char → Bool} {q : Pattern} (hkind : kind '\n' = false)
    (htail : EndsLine tail) : ((Pattern.char kind).seq q).first? ⟨before, tail⟩ = none := by
  cases tail with
  | nil => exact Pattern.first?_char_seq_nil
  | cons c tail =>
    obtain rfl : c = '\n' := htail c rfl
    rw [Pattern.first?_char_seq_cons, hkind]
    rfl

/-- The rest of a line is read to its end. -/
theorem first?_restOfLine (hline : '\n' ∉ line) (htail : EndsLine tail) :
    (Pattern.char (· != '\n')).many.first? ⟨before, line ++ tail⟩ =
      some ⟨line.reverse ++ before, tail⟩ := by
  rw [Pattern.first?_manyChar, Place.skip_append]
  · exact fun c hc => bne_iff_ne.mpr fun h => hline (h ▸ hc)
  · exact fun c hc => by simp [htail c hc]

/-- What is left of a key is read up to the first colon, and the rest of the line with it. -/
theorem first?_colon_of_line (hline : '\n' ∉ line) (htail : EndsLine tail) :
    ((Pattern.char isKeyChar).many.seq colonPattern).first? ⟨before, line ++ tail⟩ =
      if line.contains ':' then some ⟨line.reverse ++ before, tail⟩ else none := by
  have hkey : ∀ u : Text, ':' ∉ u → '\n' ∉ u → ∀ c ∈ u, isKeyChar c = true := by
    intro u hcolon hfeed c hc
    have h1 : c ≠ ':' := fun h => hcolon (h ▸ hc)
    have h2 : c ≠ '\n' := fun h => hfeed (h ▸ hc)
    simp [isKeyChar, h1, h2]
  rw [Pattern.first?_manyChar_seq]
  · by_cases hmem : ':' ∈ line
    · obtain ⟨u, v, rfl, hu⟩ := List.eq_append_cons_of_mem hmem
      have hnotin : '\n' ∉ u ∧ '\n' ∉ v := by
        rw [List.mem_append, List.mem_cons] at hline
        exact ⟨fun h => hline (.inl h), fun h => hline (.inr (.inr h))⟩
      rw [List.append_assoc, List.cons_append, Place.skip_append (hkey u hu hnotin.1), colonPattern,
        Pattern.first?_only_seq_self, first?_restOfLine hnotin.2 htail, if_pos (by simp)]
      · simp
      · rintro c hc
        obtain rfl : ':' = c := Option.some.inj hc
        rfl
    · rw [Place.skip_append (hkey line hmem hline), if_neg (by simpa using hmem)]
      · exact first?_char_seq_of_endsLine (by decide) htail
      · exact fun c hc => by simp [htail c hc, isKeyChar]
  · intro b c a hc
    refine Pattern.first?_only_seq_of_ne fun h => ?_
    simp [h, isKeyChar] at hc

/-- A key starts with a character other than a colon. -/
theorem first?_keyPattern (hline : '\n' ∉ line) (htail : EndsLine tail) :
    keyPattern.first? ⟨before, line ++ tail⟩ =
      if holdsKey line then some ⟨line.reverse ++ before, tail⟩ else none := by
  rw [keyPattern, Pattern.oneOrMore, Pattern.first?_seq_assoc]
  cases line with
  | nil => exact first?_char_seq_of_endsLine (by decide) htail
  | cons c l =>
    obtain ⟨hc, hl⟩ := not_or.mp (mt List.mem_cons.mpr hline)
    rw [List.cons_append, Pattern.first?_char_seq_cons]
    by_cases hcolon : c = ':'
    · subst hcolon
      rfl
    · have hkey : holdsKey (c :: l) = l.contains ':' := by
        simp [holdsKey, hcolon, Ne.symm hcolon]
      rw [if_pos (by simp [isKeyChar, hcolon, Ne.symm hc]), first?_colon_of_line hl htail, hkey]
      simp

/-- Spaces that are given back to a key leave its line as it is. -/
theorem keyPattern_absorbs {b a : Text} {c : Char} {e : Place} (hc : Text.isSpaceOrTab c = true)
    (h : keyPattern.first? ⟨c :: b, a⟩ = some e) : keyPattern.first? ⟨b, c :: a⟩ = some e := by
  obtain ⟨l, tail, rfl, hl, htail⟩ := Text.exists_eq_append_endsLine a
  have hfeed : '\n' ≠ c := by rcases isSpaceOrTab_iff.mp hc with rfl | rfl <;> decide
  have hcolon : ':' ≠ c := by rcases isSpaceOrTab_iff.mp hc with rfl | rfl <;> decide
  have hline : '\n' ∉ c :: l := fun h => (List.mem_cons.mp h).elim hfeed hl
  rw [first?_keyPattern hl htail] at h
  rw [← List.cons_append, first?_keyPattern hline htail]
  split at h
  · rename_i hkey
    obtain ⟨u, v, rfl, hu, -⟩ := holdsKey_iff.mp hkey
    have hkey' : holdsKey (c :: (u ++ ':' :: v)) = true :=
      holdsKey_iff.mpr ⟨c :: u, v, rfl, by simp [hu, hcolon], List.cons_ne_nil c u⟩
    rw [if_pos hkey', ← h]
    simp
  · cases h

/-- **The pattern of a key line matches key lines**, and each of them to its end. -/
theorem first?_keyLine (hline : '\n' ∉ line) (htail : EndsLine tail) :
    keyLinePattern.first? ⟨before, '\n' :: (line ++ tail)⟩ =
      if isBlockLine line then some ⟨line.reverse ++ '\n' :: before, tail⟩ else none := by
  rw [keyLinePattern, Pattern.first?_only_seq_self, Pattern.oneOrMore, Pattern.first?_seq_assoc]
  cases line with
  | nil => exact first?_char_seq_of_endsLine (by decide) htail
  | cons c l =>
    have hl : '\n' ∉ l := fun h => hline (List.mem_cons_of_mem c h)
    rw [List.cons_append, Pattern.first?_char_seq_cons, isBlockLine_cons]
    by_cases hc : Text.isSpaceOrTab c = true
    · rw [if_pos hc, Pattern.first?_manyChar_seq_of_absorbs fun _ _ _ _ => keyPattern_absorbs,
        first?_keyPattern hl htail, hc, Bool.true_and]
      simp
    · rw [if_neg hc, Bool.eq_false_iff.mpr hc]
      rfl

theorem first?_keyLine_continued (hline : '\n' ∉ line) (before : Text) (ls : List Text) :
    keyLinePattern.first? ⟨before, continued (line :: ls)⟩ =
      if isBlockLine line then some ⟨line.reverse ++ '\n' :: before, continued ls⟩ else none :=
  first?_keyLine hline (Text.endsLine_continued ls)

theorem first?_keyLine_of_ne {c : Char} (h : c ≠ '\n') :
    keyLinePattern.first? ⟨before, c :: t⟩ = none :=
  Pattern.first?_only_seq_of_ne h

/-- **Key lines are matched for as long as there are any.** -/
theorem first?_keyLines (hls : ∀ line ∈ ls, '\n' ∉ line) (before : Text) :
    keyLinePattern.many.first? ⟨before, continued ls⟩ =
      some ⟨(continued (ls.takeWhile isBlockLine)).reverse ++ before,
        continued (ls.dropWhile isBlockLine)⟩ := by
  induction ls generalizing before with
  | nil => exact Pattern.first?_many_of_first?_eq_none rfl
  | cons line ls ih =>
    obtain ⟨hline, hls⟩ := List.forall_mem_cons.mp hls
    have hfirst := first?_keyLine_continued hline before ls
    by_cases hkey : isBlockLine line = true
    · rw [if_pos hkey] at hfirst
      rw [Pattern.first?_many_of_first? hfirst (Text.length_continued_lt line ls), ih hls,
        List.takeWhile_cons_of_pos hkey, List.dropWhile_cons_of_pos hkey, Text.continued_cons]
      simp
    · rw [if_neg hkey] at hfirst
      rw [Pattern.first?_many_of_first?_eq_none hfirst, List.takeWhile_cons_of_neg hkey,
        List.dropWhile_cons_of_neg hkey]
      rfl

/-- The end of a run of key lines, if there is at least one. -/
def runEnd? (before : Text) (ls : List Text) : Option Place :=
  if (ls.takeWhile isBlockLine).isEmpty then none
  else some ⟨(continued (ls.takeWhile isBlockLine)).reverse ++ before,
    continued (ls.dropWhile isBlockLine)⟩

theorem first?_run (hls : ∀ line ∈ ls, '\n' ∉ line) :
    keyLinePattern.oneOrMore.first? ⟨before, continued ls⟩ = runEnd? before ls := by
  rw [Pattern.oneOrMore, Pattern.first?_seq_of_total (Pattern.first?_many_isSome _), runEnd?]
  cases ls with
  | nil => rfl
  | cons line ls =>
    have hmany := first?_keyLines hls before
    obtain ⟨hline, hls⟩ := List.forall_mem_cons.mp hls
    have hfirst := first?_keyLine_continued hline before ls
    by_cases hkey : isBlockLine line = true
    · rw [if_pos hkey] at hfirst
      rw [Pattern.first?_many_of_first? hfirst (Text.length_continued_lt line ls)] at hmany
      rw [hfirst, Option.bind_some, hmany, List.takeWhile_cons_of_pos hkey]
      rfl
    · rw [if_neg hkey] at hfirst
      rw [hfirst, List.takeWhile_cons_of_neg hkey]
      rfl

theorem first?_run_of_ne {c : Char} (h : c ≠ '\n') :
    keyLinePattern.oneOrMore.first? ⟨before, c :: t⟩ = none := by
  rw [Pattern.oneOrMore, Pattern.first?_seq_of_total (Pattern.first?_many_isSome _),
    first?_keyLine_of_ne h, Option.bind_none]

/-! ## Headers -/

theorem first?_runPattern_of_ne {c : Char} (hreturn : c ≠ '\r') (hfeed : c ≠ '\n') :
    runPattern.first? ⟨before, c :: t⟩ = none := by
  rw [runPattern, Pattern.first?_optional_seq, Pattern.first?_only_seq_of_ne hreturn,
    first?_run_of_ne hfeed, Option.or_none]

/-- Behind a header nothing but a carriage return may be left of its line. -/
theorem first?_runPattern (hline : '\n' ∉ line) (hls : ∀ line ∈ ls, '\n' ∉ line) :
    runPattern.first? ⟨before, line ++ continued ls⟩ =
      if line = [] ∨ line = ['\r'] then runEnd? (line.reverse ++ before) ls else none := by
  cases line with
  | nil =>
    rw [if_pos (.inl rfl), List.nil_append, runPattern, Pattern.first?_optional_seq, first?_run hls]
    cases ls with
    | nil => rfl
    | cons line ls =>
      rw [Text.continued_cons, Pattern.first?_only_seq_of_ne (by decide), Option.none_or]
      rfl
  | cons c l =>
    have hc : c ≠ '\n' := fun h => hline (h ▸ List.mem_cons_self)
    have hafter : keyLinePattern.oneOrMore.first? ⟨before, c :: (l ++ continued ls)⟩ = none :=
      first?_run_of_ne hc
    rw [runPattern, Pattern.first?_optional_seq, List.cons_append, hafter, Option.or_none]
    by_cases hreturn : c = '\r'
    · subst hreturn
      rw [Pattern.first?_only_seq_self]
      cases l with
      | nil => rw [if_pos (.inr rfl), List.nil_append, first?_run hls]; rfl
      | cons d l =>
        have hd : d ≠ '\n' := fun h => hline (by simp [h])
        rw [if_neg (by simp), List.cons_append, first?_run_of_ne hd]
    · rw [Pattern.first?_only_seq_of_ne hreturn, if_neg (by simp [hreturn])]

theorem isHeader_append (rest : Text) : isHeader name (header name ++ rest) =
    decide (Text.dropSpaces rest = [] ∨ Text.dropSpaces rest = ['\r']) := by
  unfold isHeader
  rw [Text.after?_eq_some_iff.mpr rfl]
  simp only
  split <;> simp_all

theorem isHeader_of_not_isPrefix (h : ¬ header name <+: line) : isHeader name line = false := by
  unfold isHeader Text.after?
  rw [if_neg (mt List.isPrefixOf_iff_prefix.mp h)]

theorem isSpaceOrTab_head_dropSpaces (htail : EndsLine tail) :
    ∀ c ∈ (Text.dropSpaces line ++ tail).head?, Text.isSpaceOrTab c = false := by
  intro c hc
  cases hdrop : Text.dropSpaces line with
  | nil =>
    rw [hdrop] at hc
    rw [htail c hc]
    rfl
  | cons d l =>
    have hhead := List.head?_dropWhile_not Text.isSpaceOrTab line
    rw [show line.dropWhile Text.isSpaceOrTab = d :: l from hdrop] at hhead
    rw [hdrop] at hc
    obtain rfl : d = c := Option.some.inj hc
    exact hhead

/-- All spaces behind a header are read: what follows cannot start with one. -/
theorem first?_underHeader (hline : '\n' ∉ line) (hls : ∀ line ∈ ls, '\n' ∉ line) :
    ((Pattern.char Text.isSpaceOrTab).many.seq runPattern).first? ⟨before, line ++ continued ls⟩ =
      if Text.dropSpaces line = [] ∨ Text.dropSpaces line = ['\r'] then
        runEnd? (line.reverse ++ before) ls
      else none := by
  have hsplit : line.takeWhile Text.isSpaceOrTab ++ Text.dropSpaces line = line :=
    List.takeWhile_append_dropWhile
  rw [Pattern.first?_manyChar_seq]
  · conv_lhs => rw [← hsplit, List.append_assoc]
    rw [Place.skip_append, first?_runPattern _ hls, ← List.append_assoc, ← List.reverse_append,
      hsplit]
    · exact fun h => hline ((List.dropWhile_sublist _).subset h)
    · exact fun c hc => List.mem_takeWhile_imp hc
    · exact isSpaceOrTab_head_dropSpaces (Text.endsLine_continued ls)
  · intro b c a hc
    rcases isSpaceOrTab_iff.mp hc with rfl | rfl
    · exact first?_runPattern_of_ne (by decide) (by decide)
    · exact first?_runPattern_of_ne (by decide) (by decide)

/-- **At the start of a line the pattern of a block matches a header over at least one key line**, and
it matches to the end of the last key line. -/
theorem first?_blockPattern (hname : '\n' ∉ header name)
    (hstart : (⟨before, line ++ continued ls⟩ : Place).StartsLine) (hline : '\n' ∉ line)
    (hls : ∀ line ∈ ls, '\n' ∉ line) :
    (blockPattern name).first? ⟨before, line ++ continued ls⟩ =
      if isHeader name line then runEnd? (line.reverse ++ before) ls else none := by
  rw [blockPattern, Pattern.first?_lineStart_seq_of_startsLine hstart]
  by_cases hpre : header name <+: line
  · obtain ⟨rest, rfl⟩ := hpre
    have hrest : '\n' ∉ rest := fun h => hline (List.mem_append_right _ h)
    rw [List.append_assoc, Pattern.first?_word_seq_append, first?_underHeader hrest hls,
      isHeader_append, ← List.append_assoc, ← List.reverse_append]
    simp only [decide_eq_true_eq]
  · rw [isHeader_of_not_isPrefix hpre, Pattern.first?_word_seq_of_not_isPrefix]
    · rfl
    · intro h
      cases ls with
      | nil => exact hpre (by simpa [continued] using h)
      | cons next ls =>
        rw [Text.continued_cons] at h
        exact hpre (Text.isPrefix_of_append_cons hname h)

end Keys

/-! ## Searches -/

theorem first?_blockPattern_eq_none {before : Text} (hname : '\n' ∉ header name)
    (hstart : ∀ c ∈ before.head?, c = '\n') (hline : '\n' ∉ line) (hls : ∀ line ∈ ls, '\n' ∉ line)
    (hopens : ¬ Opens name (line :: ls) 0) :
    (blockPattern name).first? ⟨before, line ++ continued ls⟩ = none := by
  rw [first?_blockPattern hname hstart hline hls, runEnd?]
  rw [opens_zero_iff] at hopens
  split
  · rename_i hheader
    rw [if_pos (by simpa [hheader] using hopens)]
  · rfl

/-- From the start of a line on, the search goes from line to line. -/
theorem findFrom?_blockPattern_eq_some_iff {before found : Text} (hname : '\n' ∉ header name)
    (hstart : ∀ c ∈ before.head?, c = '\n') (hline : '\n' ∉ line) (hls : ∀ line ∈ ls, '\n' ∉ line) :
    (blockPattern name).findFrom? before (line ++ continued ls) = some found ↔
      ∃ i head body, IsFirstBlock name (line :: ls) i head body ∧
        found = head ++ continued body := by
  induction ls generalizing line before with
  | nil =>
    have hopens : ¬ Opens name [line] 0 := by simp [opens_zero_iff]
    have hnone := first?_blockPattern_eq_none hname hstart hline hls hopens
    rw [continued, List.flatMap_nil, List.append_nil] at hnone ⊢
    rw [blockPattern, Pattern.findFrom?_lineStart_seq_last hline hnone]
    refine ⟨nofun, ?_⟩
    rintro ⟨i, head, body, h, -⟩
    obtain ⟨j, -, h⟩ := (isFirstBlock_cons_of_not_opens hopens).mp h
    exact absurd h not_isFirstBlock_nil
  | cons next ls ih =>
    by_cases hopens : Opens name (line :: next :: ls) 0
    · obtain ⟨hheader, hne⟩ := opens_zero_iff.mp hopens
      have hend := first?_blockPattern hname hstart hline hls
      rw [if_pos hheader, runEnd?, if_neg (by simpa using hne), ← List.append_assoc,
        ← List.reverse_append] at hend
      rw [Pattern.findFrom?_of_first? hend]
      constructor
      · rintro ⟨⟩
        exact ⟨0, line, _, (isFirstBlock_cons_of_opens hopens).mpr ⟨rfl, rfl, rfl⟩, rfl⟩
      · rintro ⟨i, head, body, h, rfl⟩
        obtain ⟨-, rfl, rfl⟩ := (isFirstBlock_cons_of_opens hopens).mp h
        rfl
    · have hnone := first?_blockPattern_eq_none hname hstart hline hls hopens
      obtain ⟨hnext, hrest⟩ := List.forall_mem_cons.mp hls
      rw [Text.continued_cons] at hnone ⊢
      have hfeed : ∀ c ∈ ('\n' :: (line.reverse ++ before)).head?, c = '\n' := fun c hc =>
        (Option.some.inj hc).symm
      rw [blockPattern, Pattern.findFrom?_lineStart_seq_next hline hnone, ← blockPattern,
        ih hfeed hnext hrest]
      constructor
      · rintro ⟨i, head, body, h, rfl⟩
        exact ⟨i + 1, head, body, (isFirstBlock_cons_of_not_opens hopens).mpr ⟨i, rfl, h⟩, rfl⟩
      · rintro ⟨i, head, body, h, rfl⟩
        obtain ⟨j, -, h⟩ := (isFirstBlock_cons_of_not_opens hopens).mp h
        exact ⟨j, head, body, h, rfl⟩

/-- **What the search for the pattern of a block finds** is the text of the first block. -/
theorem find?_blockPattern_eq_some_iff {text found : Text} (hname : '\n' ∉ header name) :
    (blockPattern name).find? text = some found ↔
      ∃ i head body, IsFirstBlock name (Text.lines text) i head body ∧
        found = Text.joinLines (head :: body) := by
  obtain ⟨line, ls, hlines⟩ := List.exists_cons_of_ne_nil (Text.lines_ne_nil text)
  have hnot : ∀ l ∈ line :: ls, '\n' ∉ l := fun l hl =>
    Text.not_mem_of_mem_lines (hlines ▸ hl)
  obtain ⟨hline, hls⟩ := List.forall_mem_cons.mp hnot
  have htext : text = line ++ continued ls := by
    rw [← Text.joinLines_cons, ← hlines, Text.joinLines_lines]
  simp only [hlines, Text.joinLines_cons]
  rw [htext]
  exact findFrom?_blockPattern_eq_some_iff hname nofun hline hls

/-! ## The rules -/

/-- How the rule about the field of a block is carried out. -/
structure Block.IsReadByLines (b : Block) (config : Config) (text : Text) : Prop where
  /-- The field is reported, if its rule is, exactly if the first block does not hold it. -/
  reported_iff : (∃ d ∈ check config text, d.rule = b.childRule) ↔
    config.enables b.childRule = true ∧
      ∃ i head body, IsFirstBlock b.name (Text.lines text) i head body ∧
        b.IsMissingIn (head :: body)
  /-- The first block is what the search for the pattern finds. -/
  found_iff : ∀ found, (blockPattern b.name).find? text = some found ↔
    ∃ i head body, IsFirstBlock b.name (Text.lines text) i head body ∧
      found = Text.joinLines (head :: body)
  /-- So the field is reported exactly if what is found does not hold it. -/
  reported_iff_found : (∃ d ∈ check config text, d.rule = b.childRule) ↔
    config.enables b.childRule = true ∧
      ∃ found, (blockPattern b.name).find? text = some found ∧ ¬ header b.child <:+: found

theorem isReadByLines_of_mem_blocks {b : Block} (hb : b ∈ blocks) (config : Config) (text : Text) :
    b.IsReadByLines config text := by
  have hplain := isPlain_of_mem_blocks hb
  have hfound : ∀ found, (blockPattern b.name).find? text = some found ↔
      ∃ i head body, IsFirstBlock b.name (Text.lines text) i head body ∧
        found = Text.joinLines (head :: body) := fun _ =>
    find?_blockPattern_eq_some_iff hplain.not_mem_name
  have hmissing : ∀ head body, b.IsMissingIn (head :: body) ↔
      ¬ header b.child <:+: Text.joinLines (head :: body) := by
    intro head body
    rw [Text.isInfix_joinLines_iff (hplain.not_mem_child '\n' (by decide)), Block.IsMissingIn]
    simp only [not_exists, not_and]
  refine ⟨exists_mem_check_iff hb, hfound, ?_⟩
  rw [exists_mem_check_iff hb]
  refine and_congr_right fun _ => ?_
  constructor
  · rintro ⟨i, head, body, h, hchild⟩
    exact ⟨_, (hfound _).mpr ⟨i, head, body, h, rfl⟩, (hmissing head body).mp hchild⟩
  · rintro ⟨found, h, hchild⟩
    obtain ⟨i, head, body, hblock, rfl⟩ := (hfound found).mp h
    exact ⟨i, head, body, hblock, (hmissing head body).mpr hchild⟩

/-- **The rules about the fields of blocks are read line by line.**  Each of them is reported, if it is
enabled, exactly if there is a bare header directly over a key line and the first such header and the
run of key lines under it do not hold the field; and that block is what the pattern over the whole text
finds.  A run ends at a blank line, at a line without a colon and at a line that is not indented. -/
theorem childRules_readByLines (config : Config) (text : Text) :
    metadata.IsReadByLines config text ∧ spec.IsReadByLines config text ∧
      ∀ line : Text, ((∀ c ∈ line, Text.isBlank c = true) ∨ ':' ∉ line ∨
        ∀ c ∈ line.head?, c ≠ ' ' ∧ c ≠ '\t') → ¬ IsKeyLine line :=
  ⟨isReadByLines_of_mem_blocks (by simp [blocks]) config text,
    isReadByLines_of_mem_blocks (by simp [blocks]) config text, fun _ => not_isKeyLine⟩

end Schema
end GraphLint
