import GraphLint.Proofs.Schema.Findings
import GraphLint.Proofs.Text.Search
import GraphLint.Proofs.Validation.Filter
import Mathlib.Data.List.TakeWhile
/-! # The first block with a name

A block is a header with nothing after it and the run of key lines directly under it.  `IsFirstBlock`
says which block of some lines is the first one with its name, by the numbers of the lines, and
`blockLines?` finds it line by line (`blockLines?_eq_some_iff`).  A rule about a field of a block is
reported exactly if the first block lacks the field (`exists_mem_check_iff`). -/
namespace GraphLint.Schema

/-! ## Lines -/

/-- A line is the header of a block and nothing else: spaces or tabs may follow the colon, and then
one carriage return. -/
def IsBareHeader (name : String) (line : Text) : Prop :=
  ∃ blanks, (∀ c ∈ blanks, c = ' ' ∨ c = '\t') ∧
    (line = header name ++ blanks ∨ line = header name ++ blanks ++ ['\r'])

/-- A line is indented and holds a key. -/
structure IsKeyLine (line : Text) : Prop where
  indented : ∃ c ∈ line.head?, c = ' ' ∨ c = '\t'
  /-- At least two characters stand before the first colon. -/
  colon : ∃ u v, line = u ++ ':' :: v ∧ ':' ∉ u ∧ 2 ≤ u.length

variable {name : String} {line head tail : Text} {ls body : List Text} {i : Nat}

theorem isSpaceOrTab_iff {c : Char} : Text.isSpaceOrTab c = true ↔ c = ' ' ∨ c = '\t' := by
  simp [Text.isSpaceOrTab]

theorem isHeader_iff : isHeader name line = true ↔ IsBareHeader name line := by
  unfold isHeader IsBareHeader
  constructor
  · intro h
    split at h
    · cases h
    · rename_i rest hrest
      rw [Text.after?_eq_some_iff] at hrest
      have hsplit : rest = rest.takeWhile Text.isSpaceOrTab ++ Text.dropSpaces rest :=
        List.takeWhile_append_dropWhile.symm
      refine ⟨rest.takeWhile Text.isSpaceOrTab, fun c hc => ?_, ?_⟩
      · exact isSpaceOrTab_iff.mp (List.mem_takeWhile_imp hc)
      · split at h
        · rename_i hdrop
          rw [hdrop, List.append_nil] at hsplit
          exact .inl (by rw [hrest, ← hsplit])
        · rename_i hdrop
          rw [hdrop] at hsplit
          exact .inr (by rw [hrest, List.append_assoc, ← hsplit])
        · cases h
  · rintro ⟨blanks, hblanks, h⟩
    have hall : ∀ c ∈ blanks, Text.isSpaceOrTab c = true := fun c hc =>
      isSpaceOrTab_iff.mpr (hblanks c hc)
    rcases h with rfl | rfl
    · have hdrop : Text.dropSpaces blanks = [] := List.dropWhile_eq_nil_iff.mpr hall
      rw [Text.after?_eq_some_iff.mpr rfl]
      simp only [hdrop]
    · have hdrop : Text.dropSpaces (blanks ++ ['\r']) = ['\r'] :=
        List.dropWhile_append_of_pos hall
      rw [List.append_assoc, Text.after?_eq_some_iff.mpr rfl]
      simp only [hdrop]

/-- Only white space follows a bare header on its line. -/
theorem IsBareHeader.exists_eq_append (h : IsBareHeader name line) :
    ∃ w, line = header name ++ w ∧ ∀ c ∈ w, c = ' ' ∨ c = '\t' ∨ c = '\r' := by
  obtain ⟨blanks, hblanks, rfl | rfl⟩ := h
  · exact ⟨blanks, rfl, fun c hc => (hblanks c hc).imp_right .inl⟩
  · refine ⟨blanks ++ ['\r'], List.append_assoc _ _ _, fun c hc => ?_⟩
    rcases List.mem_append.mp hc with hc | hc
    · exact (hblanks c hc).imp_right .inl
    · exact .inr (.inr (List.mem_singleton.mp hc))

/-- What follows the first character of a key line: a character other than a colon, and a colon
behind it. -/
def holdsKey (t : Text) : Bool := t.head?.any (· != ':') && t.contains ':'

theorem isBlockLine_cons (c : Char) (t : Text) :
    isBlockLine (c :: t) = (Text.isSpaceOrTab c && holdsKey t) :=
  Bool.and_assoc _ _ _

theorem holdsKey_iff {t : Text} :
    holdsKey t = true ↔ ∃ u v, t = u ++ ':' :: v ∧ ':' ∉ u ∧ u ≠ [] := by
  unfold holdsKey
  rw [Bool.and_eq_true, List.contains_iff_mem]
  constructor
  · rintro ⟨hhead, hmem⟩
    obtain ⟨u, v, rfl, hu⟩ := List.eq_append_cons_of_mem hmem
    refine ⟨u, v, rfl, hu, ?_⟩
    rintro rfl
    simp at hhead
  · rintro ⟨u, v, rfl, hu, hne⟩
    obtain ⟨d, u, rfl⟩ := List.exists_cons_of_ne_nil hne
    have hd : d ≠ ':' := fun h => hu (h ▸ List.mem_cons_self)
    exact ⟨by simpa using hd, by simp⟩

theorem isBlockLine_iff : isBlockLine line = true ↔ IsKeyLine line := by
  cases line with
  | nil => exact ⟨nofun, fun h => nomatch h.indented⟩
  | cons c t =>
    rw [isBlockLine_cons, Bool.and_eq_true, isSpaceOrTab_iff, holdsKey_iff]
    constructor
    · rintro ⟨hc, u, v, rfl, hu, hne⟩
      have hcolon : ':' ≠ c := by rcases hc with rfl | rfl <;> decide
      refine ⟨⟨c, rfl, hc⟩, c :: u, v, rfl, fun h => ?_, ?_⟩
      · exact (List.mem_cons.mp h).elim hcolon hu
      · exact Nat.succ_le_succ (List.length_pos_of_ne_nil hne)
    · rintro ⟨⟨d, hd, hblank⟩, u, v, heq, hu, hle⟩
      obtain rfl : c = d := Option.some.inj hd
      cases u with
      | nil => cases hle
      | cons b u =>
        obtain ⟨rfl, rfl⟩ := List.cons.inj heq
        refine ⟨hblank, u, v, rfl, fun h => hu (List.mem_cons_of_mem _ h), ?_⟩
        exact List.ne_nil_of_length_pos (Nat.le_of_succ_le_succ hle)

/-- Blank lines, lines without a colon and lines that are not indented are no key lines. -/
theorem not_isKeyLine (h : (∀ c ∈ line, Text.isBlank c = true) ∨ ':' ∉ line ∨
    ∀ c ∈ line.head?, c ≠ ' ' ∧ c ≠ '\t') : ¬ IsKeyLine line := by
  rintro ⟨⟨c, hc, hblank⟩, u, v, rfl, -, -⟩
  have hmem : ':' ∈ u ++ ':' :: v := List.mem_append_right _ List.mem_cons_self
  rcases h with h | h | h
  · exact absurd (h _ hmem) (by decide)
  · exact h hmem
  · exact hblank.elim (h c hc).1 (h c hc).2

/-! ## The first block -/

/-- Line `i` is a bare header with a key line directly under it. -/
def Opens (name : String) (ls : List Text) (i : Nat) : Prop :=
  ∃ head next, ls[i]? = some head ∧ ls[i + 1]? = some next ∧ IsBareHeader name head ∧ IsKeyLine next

/-- The first block with a name: its header is line `i`, and `body` are all the key lines directly
under it. -/
structure IsFirstBlock (name : String) (ls : List Text) (i : Nat) (head : Text) (body : List Text) :
    Prop where
  head_eq : ls[i]? = some head
  header : IsBareHeader name head
  body_ne : body ≠ []
  keys : ∀ line ∈ body, IsKeyLine line
  run : ∃ below, ls.drop (i + 1) = body ++ below ∧ ∀ line ∈ below.head?, ¬ IsKeyLine line
  /-- No line above opens a block. -/
  first : ∀ j < i, ¬ Opens name ls j

/-- The lines that a list starts with and that have a property, up to the first that has not. -/
theorem eq_takeWhile_iff {p : Text → Bool} :
    body = ls.takeWhile p ↔
      (∀ line ∈ body, p line = true) ∧
        ∃ below, ls = body ++ below ∧ ∀ line ∈ below.head?, p line = false := by
  constructor
  · rintro rfl
    refine ⟨fun line h => List.mem_takeWhile_imp h, ls.dropWhile p,
      List.takeWhile_append_dropWhile.symm, fun line h => ?_⟩
    have hhead := List.head?_dropWhile_not p ls
    rw [h] at hhead
    exact hhead
  · rintro ⟨hbody, below, rfl, hbelow⟩
    rw [List.takeWhile_append_of_pos hbody]
    cases below with
    | nil => simp
    | cons line below => simp [hbelow line rfl]

theorem isFirstBlock_iff : IsFirstBlock name ls i head body ↔
    ls[i]? = some head ∧ isHeader name head = true ∧ body ≠ [] ∧
      body = (ls.drop (i + 1)).takeWhile isBlockLine ∧ ∀ j < i, ¬ Opens name ls j := by
  simp only [eq_takeWhile_iff, isHeader_iff, isBlockLine_iff, ← Bool.not_eq_true]
  constructor
  · rintro ⟨h1, h2, h3, h4, h5, h6⟩
    exact ⟨h1, h2, h3, ⟨h4, h5⟩, h6⟩
  · rintro ⟨h1, h2, h3, ⟨h4, h5⟩, h6⟩
    exact ⟨h1, h2, h3, h4, h5, h6⟩

theorem opens_iff : Opens name ls i ↔
    ls[i]?.any (isHeader name) = true ∧ ls[i + 1]?.any isBlockLine = true := by
  simp only [Opens, Option.any_eq_true, isHeader_iff, isBlockLine_iff]
  constructor
  · rintro ⟨head, next, h1, h2, h3, h4⟩
    exact ⟨⟨head, h1, h3⟩, next, h2, h4⟩
  · rintro ⟨⟨head, h1, h3⟩, next, h2, h4⟩
    exact ⟨head, next, h1, h2, h3, h4⟩

instance : Decidable (Opens name ls i) := decidable_of_iff _ opens_iff.symm

instance : Decidable (IsFirstBlock name ls i head body) := decidable_of_iff _ isFirstBlock_iff.symm

theorem opens_zero_iff : Opens name (line :: ls) 0 ↔
    isHeader name line = true ∧ ls.takeWhile isBlockLine ≠ [] := by
  rw [opens_iff]
  refine and_congr Iff.rfl ?_
  cases ls with
  | nil => simp
  | cons next ls =>
    by_cases hnext : isBlockLine next = true
    · simp [List.takeWhile_cons_of_pos hnext, hnext]
    · simp [List.takeWhile_cons_of_neg hnext, hnext]

theorem IsFirstBlock.opens (h : IsFirstBlock name ls i head body) : Opens name ls i := by
  obtain ⟨below, hdrop, -⟩ := h.run
  obtain ⟨next, body, rfl⟩ := List.exists_cons_of_ne_nil h.body_ne
  refine ⟨head, next, h.head_eq, ?_, h.header, h.keys next List.mem_cons_self⟩
  have hnext := congrArg List.head? hdrop
  rwa [List.head?_drop] at hnext

/-- A block that the first line opens is the first one. -/
theorem isFirstBlock_cons_of_opens (h : Opens name (line :: ls) 0) :
    IsFirstBlock name (line :: ls) i head body ↔
      i = 0 ∧ head = line ∧ body = ls.takeWhile isBlockLine := by
  obtain ⟨hheader, hne⟩ := opens_zero_iff.mp h
  rw [isFirstBlock_iff]
  constructor
  · rintro ⟨hhead, -, -, hbody, hfirst⟩
    obtain rfl : i = 0 := by
      by_contra hi
      exact hfirst 0 (Nat.pos_of_ne_zero hi) h
    exact ⟨rfl, (Option.some.inj hhead).symm, hbody⟩
  · rintro ⟨rfl, rfl, rfl⟩
    exact ⟨rfl, hheader, hne, rfl, fun j hj => absurd hj (Nat.not_lt_zero j)⟩

/-- If the first line opens no block, the first block is that of the lines below. -/
theorem isFirstBlock_cons_of_not_opens (h : ¬ Opens name (line :: ls) 0) :
    IsFirstBlock name (line :: ls) i head body ↔
      ∃ j, i = j + 1 ∧ IsFirstBlock name ls j head body := by
  constructor
  · intro hb
    cases i with
    | zero => exact absurd hb.opens h
    | succ j =>
      exact ⟨j, rfl, hb.head_eq, hb.header, hb.body_ne, hb.keys, hb.run, fun k hk =>
        hb.first (k + 1) (Nat.succ_lt_succ hk)⟩
  · rintro ⟨j, rfl, hb⟩
    refine ⟨hb.head_eq, hb.header, hb.body_ne, hb.keys, hb.run, fun k hk => ?_⟩
    cases k with
    | zero => exact h
    | succ k => exact hb.first k (Nat.lt_of_succ_lt_succ hk)

theorem not_isFirstBlock_nil : ¬ IsFirstBlock name [] i head body := fun h => nomatch h.head_eq

/-- **The block that is read line by line is the first one.** -/
theorem blockLines?_eq_some_iff :
    blockLines? name ls = some body ↔ ∃ i head, IsFirstBlock name ls i head body := by
  induction ls with
  | nil => exact ⟨nofun, fun ⟨i, head, h⟩ => absurd h not_isFirstBlock_nil⟩
  | cons line ls ih =>
    rw [blockLines?]
    by_cases hopens : Opens name (line :: ls) 0
    · obtain ⟨hheader, hne⟩ := opens_zero_iff.mp hopens
      rw [if_pos (by simp [hheader, hne])]
      constructor
      · rintro ⟨⟩
        exact ⟨0, line, (isFirstBlock_cons_of_opens hopens).mpr ⟨rfl, rfl, rfl⟩⟩
      · rintro ⟨i, head, h⟩
        rw [((isFirstBlock_cons_of_opens hopens).mp h).2.2]
    · have hcond : ¬ (isHeader name line && !(ls.takeWhile isBlockLine).isEmpty) = true := by
        simpa [opens_zero_iff] using hopens
      rw [if_neg hcond, ih]
      constructor
      · rintro ⟨i, head, h⟩
        exact ⟨i + 1, head, (isFirstBlock_cons_of_not_opens hopens).mpr ⟨i, rfl, h⟩⟩
      · rintro ⟨i, head, h⟩
        obtain ⟨j, -, h⟩ := (isFirstBlock_cons_of_not_opens hopens).mp h
        exact ⟨j, head, h⟩

/-! ## What is reported -/

/-- The blocks of a graph definition that must hold a field. -/
def blocks : List Block := [metadata, spec]

/-- The names of a block and of its field: they are words, and the one does not end in the other. -/
structure Block.IsPlain (b : Block) : Prop where
  not_mem_name : '\n' ∉ header b.name
  not_mem_child : ∀ c ∈ [' ', '\t', '\r', '\n'], c ∉ header b.child
  not_isInfix : ¬ header b.child <:+: header b.name

theorem isPlain_of_mem_blocks {b : Block} (hb : b ∈ blocks) : b.IsPlain := by
  simp only [blocks, List.mem_cons, List.not_mem_nil, or_false] at hb
  rcases hb with rfl | rfl
  all_goals
    refine ⟨by decide, ?_, by decide⟩
    -- one character after the other: characters as such are too many to be decided about
    simp only [List.forall_mem_cons]
    exact ⟨by decide, by decide, by decide, by decide, nofun⟩

/-- A bare header does not hold the field of its block. -/
theorem Block.IsPlain.not_isInfix_of_isBareHeader {b : Block} (hb : b.IsPlain)
    (h : IsBareHeader b.name head) : ¬ header b.child <:+: head := by
  obtain ⟨w, rfl, hwhite⟩ := h.exists_eq_append
  have hw : ∀ c ∈ w, c ∈ [' ', '\t', '\r', '\n'] := by
    intro c hc
    rcases hwhite c hc with rfl | rfl | rfl <;> decide
  cases w with
  | nil =>
    rw [List.append_nil]
    exact hb.not_isInfix
  | cons c w =>
    rw [Text.isInfix_append_cons_iff (hb.not_mem_child c (hw c List.mem_cons_self))]
    rintro (hin | hin)
    · exact hb.not_isInfix hin
    · have hcolon : ':' ∈ header b.child := List.mem_append_right _ (List.mem_singleton_self _)
      exact hb.not_mem_child ':' (hw ':' (List.mem_cons_of_mem c (hin.subset hcolon))) hcolon

/-- A block lacks its field if no line of it holds the name of the field and a colon. -/
def Block.IsMissingIn (b : Block) (block : List Text) : Prop :=
  ∀ line ∈ block, ¬ header b.child <:+: line

section
variable {b : Block} {config : Config} {text : Text} {d : Diagnostic}

theorem Block.mem_childFindings_iff (hb : b.IsPlain) : d ∈ b.childFindings text ↔
    (∃ i head body, IsFirstBlock b.name (Text.lines text) i head body ∧
      b.IsMissingIn (head :: body)) ∧
    d = finding (.fullLine text (.ofNat (headerLine b.name (Text.lines text)))) b.childRule
      ("'" ++ b.name ++ "' must contain '" ++ b.child ++ "' field") b.childAdvice := by
  have hany : ∀ body : List Text,
      body.any (Text.occurs (header b.child)) = false ↔ b.IsMissingIn body := by
    intro body
    simp only [List.any_eq_false, Text.occurs_iff_isInfix, IsMissingIn]
  unfold childFindings
  cases hblock : blockLines? b.name (Text.lines text) with
  | none =>
    refine ⟨nofun, ?_⟩
    rintro ⟨⟨i, head, body, h, -⟩, -⟩
    have := blockLines?_eq_some_iff.mpr ⟨i, head, h⟩
    rw [hblock] at this
    cases this
  | some body =>
    obtain ⟨i, head, h⟩ := blockLines?_eq_some_iff.mp hblock
    have hmissing : b.IsMissingIn (head :: body) ↔ b.IsMissingIn body := by
      unfold IsMissingIn
      rw [List.forall_mem_cons, and_iff_right (hb.not_isInfix_of_isBareHeader h.header)]
    simp only
    by_cases hchild : b.IsMissingIn body
    · rw [if_neg (by rw [(hany body).mpr hchild]; exact Bool.false_ne_true), List.mem_singleton]
      exact ⟨fun hd => ⟨⟨i, head, body, h, hmissing.mpr hchild⟩, hd⟩, fun hd => hd.2⟩
    · rw [if_pos (by rwa [← Bool.not_eq_false, hany])]
      refine ⟨nofun, ?_⟩
      rintro ⟨⟨j, head', body', h', hmissing'⟩, -⟩
      have hsame := blockLines?_eq_some_iff.mpr ⟨j, head', h'⟩
      obtain rfl := Option.some.inj (hblock.symm.trans hsame)
      exact absurd (List.forall_mem_cons.mp hmissing').2 hchild

/-- The switch for all rules about fields is one for each of them. -/
theorem check_eq_filter (config : Config) (text : Text) :
    check config text = (findings text).filter fun d => config.enables d.rule := by
  rw [Validation.schemaCheck_eq_filter, Validation.schemaCheck_default]

theorem mem_check_iff : d ∈ check config text ↔ d ∈ findings text ∧ config.enables d.rule = true := by
  rw [check_eq_filter, List.mem_filter]

/-- A finding is about a field that a block lacks, or under a rule of its own. -/
theorem mem_childFindings_or_rule_ne (hd : d ∈ findings text) :
    (∃ b ∈ blocks, d ∈ b.childFindings text) ∨ ∀ b ∈ blocks, d.rule ≠ b.childRule := by
  have hother : ∀ {rule}, (∀ b ∈ blocks, rule ≠ b.childRule) → IsFinding text rule d →
      ∀ b ∈ blocks, d.rule ≠ b.childRule := fun hne h b hb => h.rule_eq ▸ hne b hb
  simp only [findings, List.mem_append] at hd
  rcases hd with ((((hd | hd) | hd) | hd) | hd) | hd
  · exact .inr (hother (by decide) (FixedField.isFinding_of_mem_findings hd))
  · exact .inr (hother (by decide) (FixedField.isFinding_of_mem_findings hd))
  · exact .inr (hother (by decide) (Block.isFinding_of_mem_findings hd))
  · exact .inr (hother (by decide) (Block.isFinding_of_mem_findings hd))
  · exact .inl ⟨metadata, by simp [blocks], hd⟩
  · exact .inl ⟨spec, by simp [blocks], hd⟩

/-- The blocks report their fields under different rules. -/
theorem eq_of_childRule_eq {b c : Block} (hb : b ∈ blocks) (hc : c ∈ blocks)
    (h : b.childRule = c.childRule) : b = c := by
  simp only [blocks, List.mem_cons, List.not_mem_nil, or_false] at hb hc
  rcases hb with rfl | rfl <;> rcases hc with rfl | rfl
  · rfl
  · exact absurd h (by decide)
  · exact absurd h (by decide)
  · rfl

/-- The findings under the rule of a field are those about the block that should hold it. -/
theorem mem_findings_and_rule_eq_iff (hb : b ∈ blocks) :
    d ∈ findings text ∧ d.rule = b.childRule ↔ d ∈ b.childFindings text := by
  constructor
  · rintro ⟨hd, hrule⟩
    rcases mem_childFindings_or_rule_ne hd with ⟨c, hc, hd⟩ | hne
    · have hsame := (Block.isFinding_of_mem_childFindings hd).rule_eq.symm.trans hrule
      exact eq_of_childRule_eq hc hb hsame ▸ hd
    · exact absurd hrule (hne b hb)
  · intro hd
    refine ⟨?_, (Block.isFinding_of_mem_childFindings hd).rule_eq⟩
    simp only [blocks, List.mem_cons, List.not_mem_nil, or_false] at hb
    simp only [findings, List.mem_append]
    rcases hb with rfl | rfl
    · exact .inl (.inr hd)
    · exact .inr hd

/-- **A field is reported exactly if the first block lacks it.** -/
theorem exists_mem_check_iff (hb : b ∈ blocks) :
    (∃ d ∈ check config text, d.rule = b.childRule) ↔ config.enables b.childRule = true ∧
      ∃ i head body, IsFirstBlock b.name (Text.lines text) i head body ∧
        b.IsMissingIn (head :: body) := by
  have hiff : ∀ d, d ∈ b.childFindings text ↔ _ := fun _ =>
    Block.mem_childFindings_iff (isPlain_of_mem_blocks hb)
  constructor
  · rintro ⟨d, hd, hrule⟩
    obtain ⟨hd, henabled⟩ := mem_check_iff.mp hd
    have hchild := (mem_findings_and_rule_eq_iff hb).mp ⟨hd, hrule⟩
    exact ⟨hrule ▸ henabled, ((hiff d).mp hchild).1⟩
  · rintro ⟨henabled, hblock⟩
    obtain ⟨hd, hrule⟩ := (mem_findings_and_rule_eq_iff hb).mpr ((hiff _).mpr ⟨hblock, rfl⟩)
    exact ⟨_, mem_check_iff.mpr ⟨hd, hrule.symm ▸ henabled⟩, hrule⟩

end

end GraphLint.Schema
