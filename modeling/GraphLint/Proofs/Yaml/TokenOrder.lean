import GraphLint.Proofs.Yaml.ScanOrder
/-! # Tokens come line after line

The lexer gives its tokens in the order of the lines they start on, and it fails in order
(`Tokens.ofText_inOrder`).  Two of its habits stand against that.  A colon puts tokens *before* ones
that were read already, at the mark of the candidate; and what a candidate holds back is released
long after it was read.

Both are answered by one invariant of what is held back (`Held`): no token is on a later line than
the cursor, and the tokens from a candidate on are on no earlier line than it.  The lexer drops the
candidates of earlier lines before it reads a token, so from then on all of them are on the line of
the cursor (`Held`, `settled`).  So whatever a colon puts in between is on that line, as is
everything that comes after it. -/
namespace GraphLint.Yaml

/-- What holds of the tokens that a lexer holds back while its cursor is on a line.  When the lexer
is `settled`, its candidates are on that line too. -/
structure Held (settled : Prop) (least line : Nat) (candidates : List (Option Candidate))
    (released : Nat) (tokens : List Token) : Prop where
  least_le : least ≤ line
  sorted : tokens.Pairwise (·.start.line ≤ ·.start.line)
  between : ∀ t ∈ tokens, least ≤ t.start.line ∧ t.start.line ≤ line
  candidate_le : ∀ k, some k ∈ candidates → k.mark.line ≤ line
  line_le_candidate : settled → ∀ k, some k ∈ candidates → line ≤ k.mark.line
  /-- A candidate holds back no token of a line before its own. -/
  heldBack : ∀ k, some k ∈ candidates → ∀ t ∈ tokens.drop (k.number - released),
    k.mark.line ≤ t.start.line

namespace Held
variable {settled : Prop} {least line released : Nat} {candidates : List (Option Candidate)}
  {tokens : List Token}

/-- The cursor moves on. -/
theorem advance {line' : Nat} (h : Held settled least line candidates released tokens)
    (hline : line ≤ line') : Held False least line' candidates released tokens where
  least_le := Nat.le_trans h.least_le hline
  sorted := h.sorted
  between t ht := ⟨(h.between t ht).1, Nat.le_trans (h.between t ht).2 hline⟩
  candidate_le k hk := Nat.le_trans (h.candidate_le k hk) hline
  line_le_candidate := False.elim
  heldBack := h.heldBack

/-- Candidates are given up. -/
theorem drop_candidates {candidates' : List (Option Candidate)}
    (h : Held settled least line candidates released tokens)
    (hsub : ∀ k, some k ∈ candidates' → some k ∈ candidates) :
    Held settled least line candidates' released tokens where
  least_le := h.least_le
  sorted := h.sorted
  between := h.between
  candidate_le k hk := h.candidate_le k (hsub k hk)
  line_le_candidate hs k hk := h.line_le_candidate hs k (hsub k hk)
  heldBack k hk := h.heldBack k (hsub k hk)

/-- All candidates are on the line of the cursor. -/
theorem settle (h : Held settled least line candidates released tokens)
    (hline : ∀ k, some k ∈ candidates → line ≤ k.mark.line) :
    Held True least line candidates released tokens where
  least_le := h.least_le
  sorted := h.sorted
  between := h.between
  candidate_le := h.candidate_le
  line_le_candidate _ := hline
  heldBack := h.heldBack

/-- A candidate for the next token. -/
theorem add_candidate (h : Held settled least line candidates released tokens) {k : Candidate}
    (hline : k.mark.line = line) (hnumber : k.number = released + tokens.length) :
    Held settled least line (some k :: candidates) released tokens where
  least_le := h.least_le
  sorted := h.sorted
  between := h.between
  candidate_le k' hk' := by
    rcases List.mem_cons.mp hk' with hk' | hk'
    · cases hk'
      exact Nat.le_of_eq hline
    · exact h.candidate_le k' hk'
  line_le_candidate hs k' hk' := by
    rcases List.mem_cons.mp hk' with hk' | hk'
    · cases hk'
      exact Nat.le_of_eq hline.symm
    · exact h.line_le_candidate hs k' hk'
  heldBack k' hk' := by
    rcases List.mem_cons.mp hk' with hk' | hk'
    · cases hk'
      rw [hnumber, Nat.add_sub_cancel_left, List.drop_length]
      exact fun t ht => absurd ht List.not_mem_nil
    · exact h.heldBack k' hk'

/-- A token of the cursor's line put between the tokens that are held back, where all tokens after it
are on that line too. -/
theorem insert (h : Held settled least line candidates released tokens) {place : Nat} {t : Token}
    (ht : t.start.line = line)
    (hplace : ∀ t ∈ tokens.drop place, line ≤ t.start.line) :
    Held settled least line candidates released (tokens.take place ++ t :: tokens.drop place) where
  least_le := h.least_le
  sorted := by
    refine List.pairwise_append.mpr ⟨h.sorted.sublist (List.take_sublist _ _), ?_, ?_⟩
    · exact List.pairwise_cons.mpr
        ⟨fun t' ht' => ht ▸ hplace t' ht', h.sorted.sublist (List.drop_sublist _ _)⟩
    · intro t₁ h₁ t₂ h₂
      have hle := (h.between t₁ (List.mem_of_mem_take h₁)).2
      rcases List.mem_cons.mp h₂ with rfl | h₂
      · exact ht ▸ hle
      · exact Nat.le_trans hle (hplace t₂ h₂)
  between t' ht' := by
    rcases List.mem_append.mp ht' with ht' | ht'
    · exact h.between t' (List.mem_of_mem_take ht')
    · rcases List.mem_cons.mp ht' with rfl | ht'
      · exact ⟨ht ▸ h.least_le, Nat.le_of_eq ht⟩
      · exact h.between t' (List.mem_of_mem_drop ht')
  candidate_le := h.candidate_le
  line_le_candidate := h.line_le_candidate
  heldBack k hk t' ht' := by
    rw [List.drop_append] at ht'
    rcases List.mem_append.mp ht' with ht' | ht'
    · rw [List.drop_take] at ht'
      exact h.heldBack k hk t' (List.mem_of_mem_take ht')
    · rcases List.mem_cons.mp (List.mem_of_mem_drop ht') with rfl | ht'
      · exact ht ▸ h.candidate_le k hk
      · exact Nat.le_trans (h.candidate_le k hk) (hplace t' ht')

/-- A token of the cursor's line after all others. -/
theorem push (h : Held settled least line candidates released tokens) {t : Token}
    (ht : t.start.line = line) :
    Held settled least line candidates released (tokens ++ [t]) := by
  have hnil : ∀ t ∈ tokens.drop tokens.length, line ≤ t.start.line := by simp
  simpa using h.insert ht hnil

/-- Tokens that no candidate holds back are released. -/
theorem release (h : Held settled least line candidates released tokens) {n least' : Nat}
    (hn : ∀ k, some k ∈ candidates → n ≤ k.number - released) (hline : least' ≤ line)
    (hleast : ∀ t ∈ tokens.drop n, least' ≤ t.start.line) :
    Held settled least' line candidates (released + n) (tokens.drop n) where
  least_le := hline
  sorted := h.sorted.sublist (List.drop_sublist _ _)
  between t ht := ⟨hleast t ht, (h.between t (List.mem_of_mem_drop ht)).2⟩
  candidate_le := h.candidate_le
  line_le_candidate := h.line_le_candidate
  heldBack k hk := by
    have hk' := hn k hk
    have hplace : n + (k.number - (released + n)) = k.number - released := by omega
    rw [List.drop_drop, hplace]
    exact h.heldBack k hk

end Held

namespace Lexer
variable {settled : Prop} {least : Nat} {l : Lexer}

/-- What holds of a lexer between two of its acts. -/
def InOrder (settled : Prop) (least : Nat) (l : Lexer) : Prop :=
  Held settled least l.mark.line (l.candidate :: l.outer) l.released l.held

/-! ## Candidates -/

theorem expire_yields {here : Mark} {k? : Option Candidate}
    (h : ∀ k, k? = some k → k.mark.line ≤ here.line) :
    Yields (fun r => ∀ k, r = some k → k? = some k ∧ here.line ≤ k.mark.line) (expire here k?) := by
  cases k? with
  | none => exact nofun
  | some k =>
    rw [expire]
    split
    · split
      · exact Yields.within (h k rfl)
      · exact nofun
    · rename_i hstale
      rintro _ ⟨⟩
      refine ⟨rfl, ?_⟩
      simp only [Candidate.isStale, Bool.or_eq_true, decide_eq_true_eq, not_or, Nat.not_lt] at hstale
      exact hstale.1

/-- After the candidates of earlier lines have been dropped, the lexer is settled. -/
theorem expireAll_yields (h : l.InOrder settled least) : Yields (InOrder True least) l.expireAll := by
  have hone (k? : Option Candidate) (hk? : k? ∈ l.candidate :: l.outer) :
      Yields (fun r => ∀ k, r = some k → some k ∈ l.candidate :: l.outer ∧ l.mark.line ≤ k.mark.line)
        (expire l.mark k?) := by
    refine (expire_yields fun k hk => h.candidate_le k (hk ▸ hk?)).mono fun r hr k hk => ?_
    obtain ⟨hk', hline⟩ := hr k hk
    exact ⟨hk' ▸ hk?, hline⟩
  rw [expireAll]
  refine (Yields.mapM fun k? hk? => hone k? (List.mem_cons_of_mem _ (List.mem_reverse.mp hk?))).bind
    fun outer houter => ?_
  refine (hone l.candidate List.mem_cons_self).bind fun candidate hcandidate => ?_
  have hall : ∀ k, some k ∈ candidate :: outer.reverse →
      some k ∈ l.candidate :: l.outer ∧ l.mark.line ≤ k.mark.line := by
    intro k hk
    rcases List.mem_cons.mp hk with hk | hk
    · exact hcandidate k hk.symm
    · exact houter _ (List.mem_reverse.mp hk) k rfl
  exact (h.drop_candidates fun k hk => (hall k hk).1).settle fun k hk => (hall k hk).2

theorem dropCandidate_yields (h : l.InOrder settled least) :
    Yields (fun l' => l'.InOrder settled least ∧ l'.mark = l.mark) l.dropCandidate := by
  rw [dropCandidate]
  split
  · exact ⟨h, rfl⟩
  · rename_i k hk
    split
    · exact Yields.within (h.candidate_le k (hk ▸ List.mem_cons_self))
    · exact ⟨h.drop_candidates fun k' hk' => by simpa using Or.inr hk', rfl⟩

theorem addCandidate_yields (h : l.InOrder settled least) :
    Yields (InOrder settled least) l.addCandidate := by
  rw [addCandidate]
  split
  · refine (dropCandidate_yields h).bind fun l ⟨h, _⟩ => ?_
    have houter : ∀ k, some k ∈ l.outer → some k ∈ l.candidate :: l.outer :=
      fun k => List.mem_cons_of_mem _
    exact (h.drop_candidates houter).add_candidate rfl rfl
  · exact h

/-! ## Block collections -/

theorem InOrder.pushEmpty (h : l.InOrder settled least) (kind : TokenKind) {m : Mark}
    (hm : m.line = l.mark.line) : (l.pushEmpty kind m).InOrder settled least :=
  h.push hm

theorem InOrder.closeBlocks (h : l.InOrder settled least) (column : Int) :
    (l.closeBlocks column).InOrder settled least ∧ (l.closeBlocks column).mark = l.mark := by
  have hgo (indent : Int) (indents : List Int) :
      (closeBlocks.go column l indent indents).InOrder settled least ∧
        (closeBlocks.go column l indent indents).mark = l.mark := by
    induction indents generalizing l indent with
    | nil => exact ⟨h, rfl⟩
    | cons next rest ih =>
      rw [closeBlocks.go]
      split
      · exact ih (h.pushEmpty .blockEnd rfl) next
      · exact ⟨h, rfl⟩
  rw [Lexer.closeBlocks]
  split
  · exact ⟨h, rfl⟩
  · exact hgo _ _

/-- A token put before a candidate, once the lexer is settled. -/
theorem InOrder.insertAt (h : l.InOrder True least) (kind : TokenKind) {k : Candidate}
    (hk : l.candidate = some k) : (l.insertAt k.number kind k.mark).InOrder True least := by
  have hmem : some k ∈ l.candidate :: l.outer := hk ▸ List.mem_cons_self
  have hline := Nat.le_antisymm (h.candidate_le k hmem) (h.line_le_candidate trivial k hmem)
  exact h.insert hline fun t ht => hline ▸ h.heldBack k hmem t ht

/-- A block mapping opened before a candidate. -/
theorem InOrder.openBlock (h : l.InOrder True least) (column : Nat) (kind : TokenKind)
    {k : Candidate} (hk : l.candidate = some k) :
    (l.openBlock column (some k.number) kind k.mark).InOrder True least := by
  rw [Lexer.openBlock]
  split
  · exact h
  · have hopen : InOrder True least
        { l with indent := column, outerIndents := l.indent :: l.outerIndents } := h
    exact hopen.insertAt kind hk

theorem openBlockHere_yields (h : l.InOrder settled least) (problem : Problem) (kind : TokenKind) :
    Yields (InOrder settled least) (l.openBlockHere problem kind) := by
  rw [openBlockHere]
  split
  · exact h
  · split
    · rw [openBlock]
      split
      · exact h
      · exact h.pushEmpty kind rfl
    · exact Yields.at problem l.mark

/-! ## One token -/

theorem InOrder.pushIndicator (h : l.InOrder settled least) (kind : TokenKind) (n : Nat) :
    (l.pushIndicator kind n).InOrder False least :=
  (h.push (t := ⟨kind, l.mark, (l.cursor.forward n).mark⟩) rfl).advance (Nat.le_refl _)

/-- The token that a scanner gives. -/
theorem InOrder.pushScanned (h : l.InOrder settled least) {t : Token} {c : Cursor}
    (ht : t.start = l.cursor.mark) (hc : l.cursor.mark.line ≤ c.mark.line) :
    InOrder False least { l.push t with cursor := c } :=
  (h.push (congrArg Mark.line ht)).advance hc

theorem InOrder.skipBlank (h : l.InOrder settled least) (fuel : Nat) :
    (l.skipBlank fuel).InOrder False least := by
  induction fuel generalizing l settled with
  | zero => exact h.advance (Nat.le_refl _)
  | succ fuel ih =>
    unfold Lexer.skipBlank
    extract_lets tabs cursor
    have hcursor : l.mark.line ≤ cursor.mark.line :=
      Nat.le_of_eq (Cursor.line_skipComment (l.cursor.skipWhile _)).symm
    split
    · have hbreak := Nat.le_trans hcursor (Cursor.line_le_skipBreak cursor)
      exact ih (Held.advance h hbreak)
    · exact Held.advance h hcursor

theorem leaveDocument_yields (h : l.InOrder settled least) :
    Yields (fun l' => l'.InOrder settled least ∧ l'.mark = l.mark) l.leaveDocument := by
  obtain ⟨hclosed, hmark⟩ := h.closeBlocks (-1)
  rw [leaveDocument]
  exact (dropCandidate_yields hclosed).bind fun l ⟨h, hl⟩ => ⟨h, hl.trans hmark⟩

theorem lexEnd_yields (h : l.InOrder settled least) : Yields (InOrder False least) l.lexEnd := by
  unfold lexEnd
  extract_lets mark
  have hmark : l.mark.line ≤ mark.line := by
    unfold mark
    split
    · exact Nat.le_refl _
    · exact Nat.le_succ _
  have hmoved : InOrder False least { l with cursor := { l.cursor with mark } } :=
    Held.advance h hmark
  refine (leaveDocument_yields hmoved).bind fun l ⟨h, hl⟩ => ?_
  exact h.pushEmpty .streamEnd (congrArg Mark.line hl.symm)

theorem lexDirective_yields (h : l.InOrder settled least) :
    Yields (InOrder False least) l.lexDirective := by
  rw [lexDirective]
  refine (leaveDocument_yields h).bind fun l ⟨h, _⟩ => ?_
  exact (scanDirective_scans l.cursor).bind fun r hr => h.pushScanned hr.1 hr.2

theorem lexDocumentIndicator_yields (h : l.InOrder settled least) (kind : TokenKind) :
    Yields (InOrder False least) (l.lexDocumentIndicator kind) := by
  rw [lexDocumentIndicator]
  exact (leaveDocument_yields h).bind fun l ⟨h, _⟩ => h.pushIndicator kind 3

theorem lexFlowStart_yields (h : l.InOrder settled least) (kind : TokenKind) :
    Yields (InOrder False least) (l.lexFlowStart kind) := by
  rw [lexFlowStart]
  refine (addCandidate_yields h).bind fun l h => ?_
  refine (h.pushIndicator kind 1).drop_candidates fun k hk => ?_
  rcases List.mem_cons.mp hk with hk | hk
  · cases hk
  · exact hk

theorem lexFlowEnd_yields (h : l.InOrder settled least) (kind : TokenKind) :
    Yields (InOrder False least) (l.lexFlowEnd kind) := by
  rw [lexFlowEnd]
  refine (dropCandidate_yields h).bind fun l ⟨h, _⟩ => ?_
  cases houter : l.outer with
  | nil => exact h.pushIndicator kind 1
  | cons candidate outer =>
    have hleft : InOrder settled least { l with candidate, outer } :=
      h.drop_candidates fun k hk => List.mem_cons_of_mem _ (houter ▸ hk)
    exact hleft.pushIndicator kind 1

theorem lexFlowEntry_yields (h : l.InOrder settled least) :
    Yields (InOrder False least) l.lexFlowEntry := by
  rw [lexFlowEntry]
  exact (dropCandidate_yields h).bind fun l ⟨h, _⟩ => h.pushIndicator .flowEntry 1

theorem lexBlockEntry_yields (h : l.InOrder settled least) :
    Yields (InOrder False least) l.lexBlockEntry := by
  rw [lexBlockEntry]
  refine (openBlockHere_yields h _ _).bind fun l h => ?_
  exact (dropCandidate_yields h).bind fun l ⟨h, _⟩ => h.pushIndicator .blockEntry 1

theorem lexKey_yields (h : l.InOrder settled least) : Yields (InOrder False least) l.lexKey := by
  rw [lexKey]
  refine (openBlockHere_yields h _ _).bind fun l h => ?_
  exact (dropCandidate_yields h).bind fun l ⟨h, _⟩ => h.pushIndicator .key 1

theorem lexValue_yields (h : l.InOrder True least) : Yields (InOrder False least) l.lexValue := by
  rw [lexValue]
  split
  · rename_i k hk
    have hkey := (h.insertAt .key hk).openBlock k.mark.column .blockMappingStart hk
    refine (hkey.pushIndicator .value 1).drop_candidates fun k hk => ?_
    rcases List.mem_cons.mp hk with hk | hk
    · cases hk
    · exact List.mem_cons_of_mem _ hk
  · exact (openBlockHere_yields h _ _).bind fun l h => h.pushIndicator .value 1

theorem lexWord_yields (h : l.InOrder settled least) {scan : Cursor → Except Fault (Token × Cursor)}
    (hscan : ∀ c, Scans c (scan c)) : Yields (InOrder False least) (l.lexWord scan) := by
  rw [lexWord]
  refine (addCandidate_yields h).bind fun l h => ?_
  exact (hscan l.cursor).bind fun r hr => h.pushScanned hr.1 hr.2

theorem lexPlain_yields (h : l.InOrder settled least) : Yields (InOrder False least) l.lexPlain := by
  rw [lexPlain]
  refine (addCandidate_yields h).bind fun l h => ?_
  exact (scanPlain_yields _ _ l.cursor).bind fun r hr => h.pushScanned hr.1 hr.2

theorem lexBlockScalar_yields (h : l.InOrder settled least) (fold : Bool) :
    Yields (InOrder False least) (l.lexBlockScalar fold) := by
  rw [lexBlockScalar]
  refine (dropCandidate_yields h).bind fun l ⟨h, _⟩ => ?_
  exact (scanBlock_scans fold _ l.cursor).bind fun r hr => h.pushScanned hr.1 hr.2

theorem lexChar_yields (h : l.InOrder True least) (c : Char) :
    Yields (InOrder False least) (l.lexChar c) := by
  unfold lexChar
  refine .ite (lexDirective_yields h) ?_
  refine .ite (lexDocumentIndicator_yields h _) (.ite (lexDocumentIndicator_yields h _) ?_)
  refine .ite (lexFlowStart_yields h _) (.ite (lexFlowStart_yields h _) ?_)
  refine .ite (lexFlowEnd_yields h _) (.ite (lexFlowEnd_yields h _) ?_)
  refine .ite (lexFlowEntry_yields h) (.ite (lexBlockEntry_yields h) ?_)
  refine .ite (lexKey_yields h) (.ite (lexValue_yields h) ?_)
  refine .ite (lexWord_yields h (scanAnchor_scans _ _)) ?_
  refine .ite (lexWord_yields h (scanAnchor_scans _ _)) ?_
  refine .ite (lexWord_yields h (scanTag_scans _)) ?_
  refine .ite (lexBlockScalar_yields h _) (.ite (lexBlockScalar_yields h _) ?_)
  refine .ite (lexWord_yields h (scanQuoted_scans _)) ?_
  refine .ite (lexWord_yields h (scanQuoted_scans _)) ?_
  exact .ite (lexPlain_yields h) (.within (Nat.le_refl _))

theorem next_yields (h : l.InOrder settled least) : Yields (InOrder False least) l.next := by
  rw [next]
  refine (expireAll_yields (h.skipBlank _)).bind fun l h => ?_
  obtain ⟨hclosed, _⟩ := h.closeBlocks l.mark.column
  dsimp only
  split
  · exact lexEnd_yields hclosed
  · exact lexChar_yields hclosed _

/-! ## Releasing -/

/-- A fold that takes the least of a bound for each candidate is at most each of them. -/
theorem foldl_le_of_mem {f : Nat → Option Candidate → Nat} {bound : Candidate → Nat}
    (hnone : ∀ n, f n none = n) (hsome : ∀ n k, f n (some k) = min n (bound k))
    (candidates : List (Option Candidate)) (n : Nat) :
    candidates.foldl f n ≤ n ∧ ∀ k, some k ∈ candidates → candidates.foldl f n ≤ bound k := by
  induction candidates generalizing n with
  | nil => exact ⟨Nat.le_refl n, nofun⟩
  | cons k? candidates ih =>
    obtain ⟨hle, hall⟩ := ih (f n k?)
    rw [List.foldl_cons]
    cases k? with
    | none =>
      rw [hnone] at hle hall ⊢
      exact ⟨hle, fun k hk => hall k (by simpa using hk)⟩
    | some k =>
      rw [hsome] at hle hall ⊢
      refine ⟨Nat.le_trans hle (Nat.min_le_left _ _), fun k' hk' => ?_⟩
      rcases List.mem_cons.mp hk' with hk' | hk'
      · cases hk'
        exact Nat.le_trans hle (Nat.min_le_right _ _)
      · exact hall k' hk'

/-- No candidate holds back a token that can be released. -/
theorem releasable_le (l : Lexer) :
    ∀ k, some k ∈ l.candidate :: l.outer → l.releasable ≤ k.number - l.released := by
  rw [releasable]
  exact (foldl_le_of_mem (fun n => rfl) (fun n k => rfl) _ _).2

end Lexer

/-! ## All tokens -/

/-- Whether tokens and what ends them come line after line, from the line `least` on. -/
def TokensInOrder (ending : Except Fault Mark) : (least : Nat) → List Token → Prop
  | least, [] => Yields (least ≤ ·.line) ending
  | least, t :: ts => least ≤ t.start.line ∧ TokensInOrder ending t.start.line ts

namespace TokensInOrder
variable {ending : Except Fault Mark} {least : Nat} {ts : List Token}

theorem mono {least' : Nat} (h : TokensInOrder ending least ts) (hle : least' ≤ least) :
    TokensInOrder ending least' ts := by
  cases ts with
  | nil => exact Yields.mono h fun m hm => Nat.le_trans hle hm
  | cons t ts => exact ⟨Nat.le_trans hle h.1, h.2⟩

theorem dropLast (h : TokensInOrder ending least ts) : TokensInOrder ending least ts.dropLast := by
  induction ts generalizing least with
  | nil => exact h
  | cons t ts ih =>
    cases ts with
    | nil =>
      have hnil : TokensInOrder ending t.start.line [] := h.2
      exact hnil.mono h.1
    | cons t' ts => exact ⟨h.1, ih h.2⟩

/-- Tokens put before others that start on no earlier line. -/
theorem append {rest : List Token} (hsorted : ts.Pairwise (·.start.line ≤ ·.start.line))
    (hleast : ∀ t ∈ ts, least ≤ t.start.line) (hrest : TokensInOrder ending least rest)
    (hafter : ∀ t ∈ ts, TokensInOrder ending t.start.line rest) :
    TokensInOrder ending least (ts ++ rest) := by
  induction ts generalizing least with
  | nil => exact hrest
  | cons t ts ih =>
    obtain ⟨hnext, hsorted⟩ := List.pairwise_cons.mp hsorted
    refine ⟨hleast t List.mem_cons_self, ?_⟩
    exact ih hsorted hnext (hafter t List.mem_cons_self)
      fun t' ht' => hafter t' (List.mem_cons_of_mem _ ht')

end TokensInOrder

namespace Tokens
variable {settled : Prop} {least : Nat} {l : Lexer}

/-- Whether tokens and what ends them come line after line. -/
def InOrder (least : Nat) (ts : Tokens) : Prop := TokensInOrder ts.ending least ts.list

/-- The tokens that a lexer releases come before whatever is read from what is left. -/
theorem prepend_inOrder (h : l.InOrder settled least) (rest : Tokens)
    (hrest : ∀ least, l.release.2.InOrder settled least → rest.InOrder least) :
    (rest.prepend l.release.1).InOrder least := by
  have hsplit := h.sorted
  rw [← List.take_append_drop l.releasable l.held] at hsplit
  obtain ⟨hsorted, -, hacross⟩ := List.pairwise_append.mp hsplit
  refine TokensInOrder.append hsorted (fun t ht => (h.between t (List.mem_of_mem_take ht)).1) ?_
    fun t ht => ?_
  · refine hrest least (h.release l.releasable_le h.least_le fun t ht => ?_)
    exact (h.between t (List.mem_of_mem_drop ht)).1
  · refine hrest _ (h.release l.releasable_le ?_ (hacross t ht))
    exact (h.between t (List.mem_of_mem_take ht)).2

/-- **The tokens of a lexer come line after line.** -/
theorem read_inOrder (fuel : Nat) (h : l.InOrder False least) : (read fuel l).InOrder least := by
  induction fuel generalizing least l with
  | zero => exact h.least_le
  | succ fuel ih =>
    have hnear : Yields (Lexer.InOrder False least)
        (if l.held.isEmpty then .ok l else l.expireAll) :=
      .ite h ((Lexer.expireAll_yields h).mono fun _ h => h.advance (Nat.le_refl _))
    rw [read]
    revert hnear
    cases (if l.held.isEmpty then .ok l else l.expireAll : Except Fault Lexer) with
    | error fault => exact fun hfault => hfault
    | ok l =>
      intro h
      dsimp only
      split
      · have hall := prepend_inOrder h ⟨[], .ok l.release.2.mark⟩ fun _ h => h.least_le
        rw [prepend, List.append_nil] at hall
        exact hall.dropLast
      · split
        · rename_i fault hnext
          have hall := prepend_inOrder h ⟨[], .error fault⟩ fun least h => by
            have hfault := Lexer.next_yields h
            rwa [hnext] at hfault
          rwa [prepend, List.append_nil] at hall
        · rename_i l' hnext
          refine prepend_inOrder h _ fun least h => ih ?_
          have hl' := Lexer.next_yields h
          rwa [hnext] at hl'

/-- **The tokens of a text come line after line.** -/
theorem ofText_inOrder (text : Text) : (ofText text).InOrder 0 := by
  rw [ofText]
  split
  · exact nofun
  · refine read_inOrder _ ?_
    exact ⟨Nat.zero_le _, List.Pairwise.nil, nofun, by simp [Lexer.start], False.elim,
      by simp [Lexer.start]⟩

end Tokens
end GraphLint.Yaml
