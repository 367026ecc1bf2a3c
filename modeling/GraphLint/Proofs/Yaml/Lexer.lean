import GraphLint.Proofs.Yaml.Quoted
import GraphLint.Yaml.Lexer
/-! # One token at a time

What the lexer does before a token, and what becomes of the tokens.  Blanks are skipped
(`skipBlank_eq`), candidates that are near enough stay, and the first character of what is left
decides which token follows (`next_eq`).  A lexer that has nothing to wait for releases what it
holds and reads on (`Tokens.read_eq`). -/
namespace GraphLint.Yaml

namespace Lexer
variable {l : Lexer} {fuel : Nat} {c : Char} {rest spaces : Text} {m : Mark}

/-! ## Blanks -/

/-- Spaces in front of anything but a tab or a comment are skipped, and so is a line break after
them. -/
theorem skipBlank_eq (hl : l.cursor = ⟨spaces ++ rest, m⟩) (hspaces : ∀ c ∈ spaces, c = ' ')
    (hrest : ∀ c ∈ rest.head?, c ≠ ' ' ∧ c ≠ '\t' ∧ c ≠ '#') :
    l.skipBlank (fuel + 1) =
      if rest.head?.any isBreak then
        skipBlank fuel { l with
          cursor := Cursor.skipBreak ⟨rest, m.forward spaces.length⟩
          keyAllowed := l.keyAllowed || !l.inFlow }
      else { l with cursor := ⟨rest, m.forward spaces.length⟩ } := by
  have hskip (tabs : Bool) : Cursor.skipComment (Cursor.skipWhile ⟨spaces ++ rest, m⟩ fun c =>
      c == ' ' || (tabs && c == '\t')) = ⟨rest, m.forward spaces.length⟩ := by
    have hnone : (rest.takeWhile fun c => c == ' ' || (tabs && c == '\t')) = [] := by
      cases rest with
      | nil => rfl
      | cons c rest =>
        obtain ⟨hspace, htab, _⟩ := hrest c rfl
        simp [hspace, htab]
    have hrun : ((spaces ++ rest).takeWhile fun c => c == ' ' || (tabs && c == '\t')) = spaces := by
      rw [List.takeWhile_append_of_pos (fun c hc => by simp [hspaces c hc]), hnone, List.append_nil]
    have hcomment : Cursor.sees ⟨rest, m.forward spaces.length⟩ '#' = false := by
      cases rest with
      | nil => rfl
      | cons c rest => simpa [Cursor.sees] using (hrest c rfl).2.2
    have hforward : Cursor.skipWhile ⟨spaces ++ rest, m⟩ (fun c =>
        c == ' ' || (tabs && c == '\t')) = ⟨rest, m.forward spaces.length⟩ := by
      simp [Cursor.skipWhile, Cursor.takeWhile, hrun, Cursor.forward]
    rw [hforward, Cursor.skipComment, hcomment, if_neg Bool.false_ne_true]
  have hbreak : Cursor.breakAt ⟨rest, m.forward spaces.length⟩ 0 = rest.head?.any isBreak := by
    rw [Cursor.breakAt, Cursor.peekAt, List.head?_eq_getElem?]
  rw [skipBlank]
  simp only [hl, hskip, hbreak]

/-- Whether a character may start a token: whether it is none of those that are skipped. -/
def startsToken (c : Char) : Bool := !Text.isSpaceOrTab c && !isBreak c && c != '#'

theorem startsToken_iff : startsToken c = true ↔
    (c ≠ ' ' ∧ c ≠ '\t' ∧ c ≠ '#') ∧ isBreak c = false := by
  simp [startsToken, Text.isSpaceOrTab, and_assoc, and_comm, and_left_comm]

theorem startsToken_quoteOf (double : Bool) : startsToken (quoteOf double) = true := by
  cases double <;> rfl

/-- Spaces before a token, or before the end. -/
theorem skipBlank_spaces (hl : l.cursor = ⟨spaces ++ rest, m⟩) (hspaces : ∀ c ∈ spaces, c = ' ')
    (h : ∀ c ∈ rest.head?, startsToken c = true) :
    l.skipBlank (fuel + 1) = { l with cursor := ⟨rest, m.forward spaces.length⟩ } := by
  rw [skipBlank_eq hl hspaces fun c hc => (startsToken_iff.mp (h c hc)).1, if_neg]
  cases rest with
  | nil => simp
  | cons c rest => simp [(startsToken_iff.mp (h c rfl)).2]

/-- At a token, and at the end, there is nothing to skip. -/
theorem skipBlank_self (h : ∀ c ∈ l.cursor.rest.head?, startsToken c = true) :
    l.skipBlank (fuel + 1) = l := by
  have hl : l.cursor = ⟨[] ++ l.cursor.rest, l.cursor.mark⟩ := rfl
  exact skipBlank_spaces hl nofun h

/-- A line break before a token, or before the end. -/
theorem skipBlank_break (hl : l.cursor = ⟨'\n' :: rest, m⟩) (hout : l.outer = [])
    (h : ∀ c ∈ rest.head?, startsToken c = true) :
    l.skipBlank (fuel + 2) = { l with cursor := ⟨rest, m.nextLine 1⟩, keyAllowed := true } := by
  have hspaces : ∀ c ∈ ([] : Text), c = ' ' := nofun
  have hhead : ∀ c ∈ ('\n' :: rest).head?, c ≠ ' ' ∧ c ≠ '\t' ∧ c ≠ '#' := by
    rintro _ ⟨⟩
    decide
  have hbreak : ('\n' :: rest).head?.any isBreak = true := rfl
  have hskip : Cursor.skipBreak ⟨'\n' :: rest, m⟩ = ⟨rest, m.nextLine 1⟩ := rfl
  have hallowed : (l.keyAllowed || !l.inFlow) = true := by simp [inFlow, hout]
  rw [skipBlank_eq hl hspaces hhead, if_pos hbreak, List.length_nil, Mark.forward_zero, hskip,
    hallowed]
  exact skipBlank_self h

/-! ## Candidates -/

theorem expireAll_of_none (hcandidate : l.candidate = none) (hout : l.outer = []) :
    l.expireAll = .ok l := by
  obtain ⟨cursor, candidate, outer, indent, outerIndents, keyAllowed, released, held⟩ := l
  subst hcandidate hout
  rfl

/-- A candidate that is near enough stays. -/
theorem expireAll_of_near {k : Candidate} (hcandidate : l.candidate = some k) (hout : l.outer = [])
    (hnear : k.isStale l.mark = false) : l.expireAll = .ok l := by
  obtain ⟨cursor, candidate, outer, indent, outerIndents, keyAllowed, released, held⟩ := l
  subst hcandidate hout
  simp [expireAll, expire, hnear, bind, Except.bind, pure, Except.pure]

/-! ## Which token comes next -/

theorem lexChar_quote {double : Bool} (h : l.cursor.rest = quoteOf double :: rest) :
    l.lexChar (quoteOf double) = l.lexWord (scanQuoted double) := by
  cases double <;> simp [lexChar, Cursor.indicatorOf, Cursor.peekAt, h, quoteOf]

theorem lexChar_colon (h : l.cursor.rest = ':' :: ' ' :: rest) : l.lexChar ':' = l.lexValue := by
  simp [lexChar, Cursor.indicatorOf, Cursor.peekAt, h, Cursor.gapAt, Text.isSpaceOrTab]

/-- The next token, where no block collection ends before it. -/
theorem next_eq {l' : Lexer} (hskip : l.skipBlank (l.cursor.rest.length + 1) = l')
    (hexpire : l'.expireAll = .ok l') (hindent : l'.indent ≤ l'.mark.column) :
    l.next = match l'.cursor.peek with
      | none => l'.lexEnd
      | some c => l'.lexChar c := by
  have hclose : l'.closeBlocks l'.mark.column = l' := by simp [closeBlocks, hindent]
  rw [next, hskip, hexpire]
  change (match (l'.closeBlocks l'.mark.column).cursor.peek with
    | none => (l'.closeBlocks l'.mark.column).lexEnd
    | some c => (l'.closeBlocks l'.mark.column).lexChar c) = _
  rw [hclose]

end Lexer

/-! ## What becomes of the tokens -/

namespace Tokens
variable {fuel : Nat} {l l' : Lexer} {ts : List Token}

@[simp] theorem prepend_nil (ts : Tokens) : ts.prepend [] = ts := rfl

@[simp] theorem prepend_prepend (ts : Tokens) (xs ys : List Token) :
    (ts.prepend xs).prepend ys = ts.prepend (ys ++ xs) := by
  simp [prepend]

/-- The tokens that a lexer reads on after it has released all it could. -/
def after (fuel : Nat) (l : Lexer) : Tokens :=
  match l.next with
  | .error fault => ⟨[], .error fault⟩
  | .ok l => read fuel l

theorem after_of_next (h : l.next = .ok l') : after fuel l = read fuel l' := by
  rw [after, h]

/-- Tokens are released before the next one is read. -/
theorem read_eq (hexpire : l.expireAll = .ok l) (hrelease : l.release = (ts, l'))
    (hend : ∀ t ∈ ts, t.kind ≠ .streamEnd) :
    read (fuel + 1) l = (after fuel l').prepend ts := by
  have hany : ts.any (·.kind == .streamEnd) = false := by simpa using hend
  rw [read, hexpire, ite_self]
  simp only [hrelease, hany, after]
  cases l'.next with
  | error fault => simp [prepend]
  | ok l => rfl

theorem badOffset?_eq_none {text : Text} (h : ∀ c ∈ text, isAllowed c = true) (offset : Nat) :
    badOffset? offset text = none := by
  induction text generalizing offset with
  | nil => rfl
  | cons c text ih =>
    rw [badOffset?, if_pos (h c List.mem_cons_self)]
    exact ih (fun x hx => h x (List.mem_cons_of_mem c hx)) _

end Tokens
end GraphLint.Yaml
