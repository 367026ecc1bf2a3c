import GraphLint.Expression.Check
import GraphLint.Proofs.Expression.Literals
import Mathlib.Data.List.Induction
/-! # Balanced brackets

The check of the brackets of a body keeps a stack of those that are open; `Balanced` is the grammar
of the words in which each bracket is closed by its own.  The two meet in the words that can still be
balanced.  Such a word is cut by its unmatched opening brackets into balanced words (`Leaves`), and
these brackets are the stack (`openBrackets_eq_ok_iff`), because what closes the innermost of them
joins two of the balanced words and the brackets between them to one.

So a word has a stack exactly if it can be continued to a balanced one (`extendable_iff`), and where
the check gives up is the first character after which it cannot (`openBrackets_eq_error_iff`).  The
answer of the check is then read off the grammar alone (`checkDelimiters_iff`). -/
namespace GraphLint.Expression
variable {s t u v w os stack : Text} {o c top : Char} {problem : Problem}

/-- The opening brackets, each with the bracket that closes it. -/
def brackets : List (Char × Char) := [('(', ')'), ('[', ']'), ('{', '}')]

/-- Whether a character is a bracket. -/
def isBracket (c : Char) : Bool := brackets.any fun b => c == b.1 || c == b.2

/-- The words in which every bracket is closed by its own: nothing, or such a word followed by
another one in brackets. -/
inductive Balanced : Text → Prop
  | nil : Balanced []
  | group {s t : Text} {o c : Char} (hs : Balanced s) (h : (o, c) ∈ brackets) (ht : Balanced t) :
      Balanced (s ++ o :: (t ++ [c]))

/-- The opening brackets `os` of a word, from left to right, are not closed, and what stands before,
between and after them is balanced. -/
inductive Leaves : (w os : Text) → Prop
  | none {s : Text} (hs : Balanced s) : Leaves s []
  | more {w os s : Text} {o c : Char} (hw : Leaves w os) (h : (o, c) ∈ brackets) (hs : Balanced s) :
      Leaves (w ++ o :: s) (os ++ [o])

/-- A word is the start of a balanced one. -/
def Extendable (w : Text) : Prop := ∃ v, Balanced (w ++ v)

/-! ## The three kinds of brackets -/

theorem opens_of_mem (h : (o, c) ∈ brackets) : isOpener o = true := by
  have hall : ∀ b ∈ brackets, isOpener b.1 = true := by decide
  exact hall _ h

theorem closes_of_mem (h : (o, c) ∈ brackets) : isOpener c = false ∧ openerOf? c = some o := by
  have hall : ∀ b ∈ brackets, isOpener b.2 = false ∧ openerOf? b.2 = some b.1 := by decide
  exact hall _ h

theorem isBracket_of_mem (h : (o, c) ∈ brackets) : isBracket o = true ∧ isBracket c = true := by
  have hall : ∀ b ∈ brackets, isBracket b.1 = true ∧ isBracket b.2 = true := by decide
  exact hall _ h

/-- A bracket opens or closes. -/
theorem exists_mem_of_isBracket (h : isBracket c = true) :
    (∃ d, (c, d) ∈ brackets) ∨ ∃ o, (o, c) ∈ brackets := by
  simp only [isBracket, brackets, List.any_cons, List.any_nil, Bool.or_false, Bool.or_eq_true,
    beq_iff_eq] at h
  rcases h with (rfl | rfl) | (rfl | rfl) | (rfl | rfl) <;> simp [brackets]

theorem ignored_of_not_isBracket (h : isBracket c = false) :
    isOpener c = false ∧ openerOf? c = none := by
  simp only [isBracket, brackets, List.any_cons, List.any_nil, Bool.or_false, Bool.or_eq_false_iff,
    beq_eq_false_iff_ne] at h
  obtain ⟨⟨h₁, h₂⟩, ⟨h₃, h₄⟩, h₅, h₆⟩ := h
  exact ⟨by simp [isOpener, h₁, h₃, h₅], by simp [openerOf?, h₂, h₄, h₆]⟩

/-! ## The stack -/

theorem openBrackets_open (h : (o, c) ∈ brackets) (stack rest : Text) :
    openBrackets stack (o :: rest) = openBrackets (o :: stack) rest := by
  rw [openBrackets, if_pos (opens_of_mem h)]

theorem openBrackets_close (h : (o, c) ∈ brackets) (stack rest : Text) :
    openBrackets (o :: stack) (c :: rest) = openBrackets stack rest := by
  obtain ⟨hc, hopener⟩ := closes_of_mem h
  rw [openBrackets, hc, hopener]
  exact if_pos rfl

theorem openBrackets_ignore (h : isBracket c = false) (stack rest : Text) :
    openBrackets stack (c :: rest) = openBrackets stack rest := by
  obtain ⟨hopen, hclose⟩ := ignored_of_not_isBracket h
  rw [openBrackets, hopen, hclose]
  rfl

/-- A stack has no use for a closing bracket: it is empty, or another bracket is on its top. -/
inductive Refuses : (stack : Text) → (c : Char) → Problem → Prop
  | unexpected {o c : Char} (h : (o, c) ∈ brackets) : Refuses [] c (.unexpectedClosing c)
  | mismatched {o c top : Char} {stack : Text} (h : (o, c) ∈ brackets) (hne : top ≠ o) :
      Refuses (top :: stack) c (.mismatched o top)

theorem openBrackets_refuse (h : Refuses stack c problem) (rest : Text) :
    openBrackets stack (c :: rest) = .error problem := by
  cases h with
  | unexpected h =>
    obtain ⟨hc, hopener⟩ := closes_of_mem h
    rw [openBrackets, hc, hopener]
    rfl
  | mismatched h hne =>
    obtain ⟨hc, hopener⟩ := closes_of_mem h
    rw [openBrackets, hc, hopener]
    exact if_neg hne

/-- **What one character does to the stack.** -/
theorem openBrackets_cases (stack : Text) (c : Char) :
    (isBracket c = false) ∨ (∃ d, (c, d) ∈ brackets) ∨
      (∃ o below, (o, c) ∈ brackets ∧ stack = o :: below) ∨ ∃ problem, Refuses stack c problem := by
  cases hc : isBracket c with
  | false => exact .inl rfl
  | true =>
    rcases exists_mem_of_isBracket hc with hopen | ⟨o, hclose⟩
    · exact .inr (.inl hopen)
    · cases stack with
      | nil => exact .inr (.inr (.inr ⟨_, .unexpected hclose⟩))
      | cons top below =>
        by_cases htop : top = o
        · exact .inr (.inr (.inl ⟨o, below, hclose, by rw [htop]⟩))
        · exact .inr (.inr (.inr ⟨_, .mismatched hclose htop⟩))

/-- A text is read with the stack that the text before it has left, if it has left one. -/
theorem openBrackets_append (stack s t : Text) :
    openBrackets stack (s ++ t) = (openBrackets stack s).bind fun stack => openBrackets stack t := by
  induction s generalizing stack with
  | nil => rfl
  | cons c s ih =>
    rw [List.cons_append]
    rcases openBrackets_cases stack c with h | ⟨d, h⟩ | ⟨o, below, h, rfl⟩ | ⟨problem, h⟩
    · rw [openBrackets_ignore h, openBrackets_ignore h, ih]
    · rw [openBrackets_open h, openBrackets_open h, ih]
    · rw [openBrackets_close h, openBrackets_close h, ih]
    · rw [openBrackets_refuse h, openBrackets_refuse h]
      rfl

theorem openBrackets_append_of_ok (h : openBrackets stack s = .ok w) (t : Text) :
    openBrackets stack (s ++ t) = openBrackets w t := by
  rw [openBrackets_append, h]
  rfl

/-- Only brackets matter. -/
theorem openBrackets_filter (stack t : Text) :
    openBrackets stack (t.filter isBracket) = openBrackets stack t := by
  induction t generalizing stack with
  | nil => rfl
  | cons c t ih =>
    cases hc : isBracket c with
    | false =>
      rw [List.filter_cons_of_neg (by simp [hc]), ih, openBrackets_ignore hc]
    | true =>
      rw [List.filter_cons_of_pos hc, ← List.singleton_append, openBrackets_append,
        ← List.singleton_append (l := t), openBrackets_append]
      exact congrArg _ (funext ih)

/-- **The check gives up at the first character that the stack refuses.** -/
theorem openBrackets_eq_error_iff : openBrackets stack t = .error problem ↔
    ∃ w c rest left, t = w ++ c :: rest ∧ openBrackets stack w = .ok left ∧
      Refuses left c problem := by
  constructor
  · intro h
    induction t generalizing stack with
    | nil => cases h
    | cons c t ih =>
      -- past a character that is not refused it gives up where it does in the rest
      have hpast : ∀ {next : Text}, (∀ rest, openBrackets stack (c :: rest) = openBrackets next rest) →
          ∃ w d rest left, c :: t = w ++ d :: rest ∧ openBrackets stack w = .ok left ∧
            Refuses left d problem := by
        intro next hnext
        rw [hnext] at h
        obtain ⟨w, d, rest, left, rfl, hw, hd⟩ := ih h
        exact ⟨c :: w, d, rest, left, rfl, (hnext w).trans hw, hd⟩
      rcases openBrackets_cases stack c with hc | ⟨d, hc⟩ | ⟨o, below, hc, rfl⟩ | ⟨other, hc⟩
      · exact hpast (openBrackets_ignore hc stack)
      · exact hpast (openBrackets_open hc stack)
      · exact hpast (openBrackets_close hc below)
      · rw [openBrackets_refuse hc] at h
        obtain rfl : other = problem := Except.error.inj h
        exact ⟨[], c, t, stack, rfl, rfl, hc⟩
  · rintro ⟨w, c, rest, left, rfl, hw, hc⟩
    rw [openBrackets_append_of_ok hw, openBrackets_refuse hc]

/-! ## The stack is what is left open -/

/-- A balanced word leaves the stack as it was. -/
theorem Balanced.openBrackets_eq (h : Balanced s) (stack : Text) :
    openBrackets stack s = .ok stack := by
  induction h generalizing stack with
  | nil => rfl
  | group _ hoc _ ihs iht =>
    rw [openBrackets_append_of_ok (ihs stack), openBrackets_open hoc,
      openBrackets_append_of_ok (iht _), openBrackets_close hoc]
    rfl

theorem Leaves.openBrackets_eq (h : Leaves w os) : openBrackets [] w = .ok os.reverse := by
  induction h with
  | none hs => exact hs.openBrackets_eq []
  | more _ hoc hs ih =>
    rw [openBrackets_append_of_ok ih, openBrackets_open hoc, hs.openBrackets_eq,
      List.reverse_append, List.reverse_singleton, List.singleton_append]

/-- A bracket that is opened and closed again leaves open what was open before it. -/
theorem Leaves.group (h : Leaves w os) (hoc : (o, c) ∈ brackets) (hs : Balanced s) :
    Leaves (w ++ o :: (s ++ [c])) os := by
  cases h with
  | none ht => exact .none (ht.group hoc hs)
  | more hw hoc' ht =>
    rw [List.append_assoc, List.cons_append]
    exact .more hw hoc' (ht.group hoc hs)

theorem leaves_nil_iff : Leaves w [] ↔ Balanced w := by
  refine ⟨fun h => ?_, .none⟩
  generalize hos : ([] : Text) = os at h
  cases h with
  | none hs => exact hs
  | more _ _ _ => simp at hos

/-- The innermost bracket that is open is followed by a balanced word. -/
theorem Leaves.exists_of_append (h : Leaves w (os ++ [o])) :
    ∃ u s c, w = u ++ o :: s ∧ Leaves u os ∧ (o, c) ∈ brackets ∧ Balanced s := by
  generalize hos : os ++ [o] = os' at h
  cases h with
  | none _ => simp at hos
  | more hw hoc hs =>
    obtain ⟨rfl, heq⟩ := List.append_inj' hos rfl
    obtain rfl := List.singleton_inj.mp heq
    exact ⟨_, _, _, rfl, hw, hoc, hs⟩

/-- When the innermost bracket that is open is closed, the ones around it are left open. -/
theorem Leaves.close (h : Leaves w (os ++ [o])) (hoc : (o, c) ∈ brackets) :
    Leaves (w ++ [c]) os := by
  obtain ⟨u, s, _, rfl, hu, _, hs⟩ := h.exists_of_append
  rw [List.append_assoc, List.cons_append]
  exact hu.group hoc hs

/-- **The stack holds the brackets that are left open**, the innermost one on top. -/
theorem openBrackets_eq_ok_iff (hw : ∀ c ∈ w, isBracket c = true) :
    openBrackets [] w = .ok stack ↔ Leaves w stack.reverse := by
  refine ⟨fun h => ?_, fun h => by rw [h.openBrackets_eq, List.reverse_reverse]⟩
  -- from behind: the last character opens a bracket or closes the innermost one
  induction w using List.reverseRecOn generalizing stack with
  | nil =>
    obtain rfl : [] = stack := Except.ok.inj h
    exact .none .nil
  | append_singleton w c ih =>
    rw [openBrackets_append] at h
    cases hleft : openBrackets [] w with
    | error problem =>
      rw [hleft] at h
      cases h
    | ok left =>
      rw [hleft] at h
      have h : openBrackets left [c] = .ok stack := h
      have hleaves := ih (fun d hd => hw d (List.mem_append_left _ hd)) hleft
      have hc := hw c (List.mem_append_right _ (List.mem_singleton_self c))
      rcases openBrackets_cases left c with hno | ⟨d, hopen⟩ | ⟨o, below, hclose, rfl⟩ | ⟨p, hp⟩
      · rw [hc] at hno
        cases hno
      · rw [openBrackets_open hopen] at h
        obtain rfl := Except.ok.inj h
        rw [List.reverse_cons]
        exact .more hleaves hopen .nil
      · rw [openBrackets_close hclose] at h
        obtain rfl := Except.ok.inj h
        rw [List.reverse_cons] at hleaves
        exact hleaves.close hclose
      · rw [openBrackets_refuse hp] at h
        cases h

/-! ## Words that can still be balanced -/

/-- One balanced word after another one is balanced. -/
theorem Balanced.append (hs : Balanced s) (ht : Balanced t) : Balanced (s ++ t) := by
  induction ht with
  | nil => rwa [List.append_nil]
  | group _ hoc hv ihu _ =>
    rw [← List.append_assoc]
    exact ihu.group hoc hv

theorem Balanced.isBracket (h : Balanced s) : ∀ c ∈ s, isBracket c = true := by
  induction h with
  | nil => exact nofun
  | group _ hoc _ ihs iht =>
    obtain ⟨ho, hc⟩ := isBracket_of_mem hoc
    intro c hmem
    simp only [List.mem_append, List.mem_cons, List.not_mem_nil, or_false] at hmem
    rcases hmem with h | rfl | h | rfl
    · exact ihs c h
    · exact ho
    · exact iht c h
    · exact hc

theorem Extendable.of_append (h : Extendable (v ++ w)) : Extendable v := by
  obtain ⟨x, hx⟩ := h
  exact ⟨w ++ x, by rwa [← List.append_assoc]⟩

/-- **A word can be balanced exactly if its unmatched brackets all open.** -/
theorem extendable_iff : Extendable w ↔ ∃ os, Leaves w os := by
  constructor
  · rintro ⟨v, hv⟩
    have hw : ∀ c ∈ w, isBracket c = true := fun c hc => hv.isBracket c (List.mem_append_left _ hc)
    have hok := hv.openBrackets_eq []
    rw [openBrackets_append] at hok
    cases hleft : openBrackets [] w with
    | error problem =>
      rw [hleft] at hok
      cases hok
    | ok stack => exact ⟨stack.reverse, (openBrackets_eq_ok_iff hw).mp hleft⟩
  · rintro ⟨os, h⟩
    -- the brackets that are open are closed from the innermost one outwards
    induction os using List.reverseRecOn generalizing w with
    | nil => exact ⟨[], by rwa [List.append_nil, ← leaves_nil_iff]⟩
    | append_singleton os o ih =>
      obtain ⟨_, _, c, _, _, hoc, _⟩ := h.exists_of_append
      exact (ih (h.close hoc)).of_append

/-! ## The answer of the check -/

/-- After `w` the character `c` is the first one with which the word `u` cannot be balanced any
more. -/
structure FailsAt (u w : Text) (c : Char) : Prop where
  starts : w ++ [c] <+: u
  dead : ¬ Extendable (w ++ [c])
  alive : ∀ v, v <+: w → Extendable v

/-- What there is to say about the brackets `u` of a body at the end of which a literal of kind
`tail`, if of any, is open. -/
inductive Ruling (u : Text) (tail : Option QuoteKind) : Except Problem Unit → Prop
  | balanced (hu : Balanced u) (htail : tail = none) : Ruling u tail (.ok ())
  | unexpected {w : Text} {c : Char} (h : FailsAt u w c) (hw : Balanced w) :
      Ruling u tail (.error (.unexpectedClosing c))
  | mismatched {w os : Text} {c o top : Char} (h : FailsAt u w c) (hw : Leaves w (os ++ [top]))
      (hoc : (o, c) ∈ brackets) : Ruling u tail (.error (.mismatched o top))
  | unclosedQuote {kind : QuoteKind} (h : ∀ v, v <+: u → Extendable v) (htail : tail = some kind) :
      Ruling u tail (.error (.unclosedQuote kind))
  | unclosedDelimiters {os : Text} (htail : tail = none) (h : Leaves u os) (hos : os ≠ []) :
      Ruling u tail (.error (.unclosedDelimiters os))

/-- A bracket that the stack refuses is one after which nothing helps. -/
theorem failsAt_of_refuses {left rest : Text} (hu : ∀ d ∈ w ++ c :: rest, isBracket d = true)
    (hw : openBrackets [] w = .ok left) (hc : Refuses left c problem) :
    FailsAt (w ++ c :: rest) w c where
  starts := ⟨rest, by rw [List.append_assoc]; rfl⟩
  dead h := by
    obtain ⟨os, hos⟩ := extendable_iff.mp h
    have hok := hos.openBrackets_eq
    rw [openBrackets_append_of_ok hw, openBrackets_refuse hc] at hok
    cases hok
  alive v hv := by
    have hleaves := (openBrackets_eq_ok_iff fun d hd => hu d (List.mem_append_left _ hd)).mp hw
    obtain ⟨x, rfl⟩ := hv
    exact (extendable_iff.mpr ⟨_, hleaves⟩).of_append

/-- Of the brackets that leave `os` open, one after which nothing helps is refused by the stack. -/
theorem FailsAt.openBrackets_eq (h : FailsAt u w c) (hu : ∀ d ∈ u, isBracket d = true)
    (hw : Leaves w os) :
    ∃ problem, openBrackets [] u = .error problem ∧ Refuses os.reverse c problem := by
  obtain ⟨rest, rfl⟩ := h.starts
  have hc : isBracket c = true := hu c (by simp)
  have hrun : openBrackets [] (w ++ [c] ++ rest) = openBrackets os.reverse (c :: rest) := by
    rw [List.append_assoc, openBrackets_append_of_ok hw.openBrackets_eq]
    rfl
  rcases openBrackets_cases os.reverse c with hno | ⟨d, hopen⟩ | ⟨o, below, hclose, hos⟩ | ⟨p, hp⟩
  · rw [hc] at hno
    cases hno
  · exact absurd (extendable_iff.mpr ⟨_, hw.more hopen .nil⟩) h.dead
  · rw [List.reverse_eq_cons_iff] at hos
    rw [hos] at hw
    exact absurd (extendable_iff.mpr ⟨_, hw.close hclose⟩) h.dead
  · exact ⟨p, hrun.trans (openBrackets_refuse hp rest), hp⟩

/-- What the check makes of the stack at the end of a body and of the literal open there. -/
def conclude (tail : Option QuoteKind) : Except Problem Text → Except Problem Unit
  | .error problem => .error problem
  | .ok stack =>
    match tail with
    | some kind => .error (.unclosedQuote kind)
    | none => if stack.isEmpty then .ok () else .error (.unclosedDelimiters stack.reverse)

theorem checkDelimiters_eq (body : Text) : checkDelimiters body =
    conclude (openQuote body) (openBrackets [] ((unquoted body).filter isBracket)) := by
  rw [openBrackets_filter]
  rfl

section
variable {tail : Option QuoteKind} {answer : Except Problem Unit}
  (hu : ∀ c ∈ u, isBracket c = true)
include hu

/-- Whatever the check concludes is what the grammar rules. -/
theorem ruling_conclude (tail : Option QuoteKind) :
    Ruling u tail (conclude tail (openBrackets [] u)) := by
  cases hrun : openBrackets [] u with
  | error problem =>
    obtain ⟨w, c, rest, left, rfl, hw, hc⟩ := openBrackets_eq_error_iff.mp hrun
    have hfails := failsAt_of_refuses hu hw hc
    have hleaves := (openBrackets_eq_ok_iff fun d hd => hu d (List.mem_append_left _ hd)).mp hw
    cases hc with
    | unexpected _ => exact .unexpected hfails (leaves_nil_iff.mp hleaves)
    | mismatched hoc _ =>
      rw [List.reverse_cons] at hleaves
      exact .mismatched hfails hleaves hoc
  | ok stack =>
    have hleaves := (openBrackets_eq_ok_iff hu).mp hrun
    cases tail with
    | some kind =>
      refine .unclosedQuote (fun v hv => ?_) rfl
      obtain ⟨x, rfl⟩ := hv
      exact (extendable_iff.mpr ⟨_, hleaves⟩).of_append
    | none =>
      cases stack with
      | nil => exact .balanced (leaves_nil_iff.mp hleaves) rfl
      | cons top below => exact .unclosedDelimiters rfl hleaves (by simp)

/-- The grammar rules nothing else. -/
theorem Ruling.conclude_eq (h : Ruling u tail answer) :
    conclude tail (openBrackets [] u) = answer := by
  cases h with
  | balanced hbalanced htail =>
    rw [hbalanced.openBrackets_eq, htail]
    rfl
  | unexpected hfails hw =>
    obtain ⟨problem, hrun, hc⟩ := hfails.openBrackets_eq hu (.none hw)
    rw [hrun]
    cases hc
    rfl
  | mismatched hfails hw hoc =>
    obtain ⟨problem, hrun, hc⟩ := hfails.openBrackets_eq hu hw
    rw [hrun]
    rw [List.reverse_append, List.reverse_singleton, List.singleton_append] at hc
    cases hc with
    | mismatched hoc' _ =>
      -- a closing bracket has one opening bracket
      obtain rfl := Option.some.inj ((closes_of_mem hoc).2.symm.trans (closes_of_mem hoc').2)
      rfl
  | unclosedQuote halive htail =>
    obtain ⟨os, hos⟩ := extendable_iff.mp (halive u (List.prefix_refl u))
    rw [hos.openBrackets_eq, htail]
    rfl
  | @unclosedDelimiters os htail hos hne =>
    have hempty : os.reverse.isEmpty = false := by simpa using hne
    rw [hos.openBrackets_eq, htail, conclude, hempty, List.reverse_reverse]
    rfl

end

/-- **The check of brackets and quotes answers what the grammar rules**, for every body, and the
grammar rules one answer only. -/
theorem checkDelimiters_iff {body : Text} {answer : Except Problem Unit} :
    checkDelimiters body = answer ↔
      ∃ out tail, Outside body out tail ∧ Ruling (out.filter isBracket) tail answer := by
  have hbrackets : ∀ {out : Text}, ∀ c ∈ out.filter isBracket, isBracket c = true :=
    fun c hc => (List.mem_filter.mp hc).2
  constructor
  · rintro rfl
    rw [checkDelimiters_eq]
    exact ⟨_, _, outside_scan body, ruling_conclude hbrackets _⟩
  · rintro ⟨out, tail, hout, hruling⟩
    obtain ⟨rfl, rfl⟩ := outside_iff.mp hout
    rw [checkDelimiters_eq]
    exact hruling.conclude_eq hbrackets

/-- The first bracket that cannot be balanced decides, whatever is left open behind it; an open
literal hides the brackets that are left open. -/
example : checkDelimiters "f([x) + '".toList = .error (.mismatched '(' '[') ∧
    checkDelimiters "f([ ')'".toList = .error (.unclosedDelimiters "([".toList) ∧
    checkDelimiters "f([ ')".toList = .error (.unclosedQuote .single) := by
  decide

end GraphLint.Expression
