import GraphLint.Text.Lines
import Mathlib.Data.List.Basic
/-! # Patterns

A pattern is put together from characters of a kind by sequence, choice and repetition.  From a place
in a text it may match in several ways; `ends` lists where they end, the preferred way first: a choice
prefers its left side, and a repetition prefers to go on.  A search (`find?`) takes the first place
from which the pattern matches at all, and there the preferred way.

A sequence may have to go back: where its second half fails behind the preferred end of the first one,
it is tried behind the next end (`first?_seq`).  So the preferred way of the whole need not be made of
the preferred ways of its parts, and most of this module says when it is: when the second half cannot
start with what the repetition before it leaves over (`first?_manyChar_seq`), or when giving a
character back changes nothing (`first?_manyChar_seq_of_absorbs`). -/
namespace GraphLint.Text

/-- A place in a text: what stands before it, the nearest character first, and what follows. -/
structure Place where
  before : Text
  after : Text
  deriving DecidableEq, Repr

namespace Place

/-- The text between a place and a later one. -/
def upTo (x e : Place) : Text := (e.before.take (e.before.length - x.before.length)).reverse

/-- The place behind all characters of a kind that follow. -/
def skip (x : Place) (kind : Char → Bool) : Place :=
  ⟨(x.after.takeWhile kind).reverse ++ x.before, x.after.dropWhile kind⟩

/-- A line starts at a place. -/
def StartsLine (x : Place) : Prop := ∀ c ∈ x.before.head?, c = '\n'

theorem upTo_append (before t s rest : Text) :
    (⟨before, t⟩ : Place).upTo ⟨s.reverse ++ before, rest⟩ = s := by
  simp [upTo]

theorem skip_append {kind : Char → Bool} {s t : Text} (hs : ∀ c ∈ s, kind c = true)
    (ht : ∀ c ∈ t.head?, kind c = false) (before : Text) :
    (⟨before, s ++ t⟩ : Place).skip kind = ⟨s.reverse ++ before, t⟩ := by
  unfold skip
  simp only [List.takeWhile_append_of_pos hs, List.dropWhile_append_of_pos hs]
  cases t with
  | nil => simp
  | cons c t => simp [ht c rfl]

theorem skip_cons_of_pos {kind : Char → Bool} {c : Char} (h : kind c = true) (before after : Text) :
    (⟨before, c :: after⟩ : Place).skip kind = (⟨c :: before, after⟩ : Place).skip kind := by
  simp [skip, h]

theorem skip_cons_of_neg {kind : Char → Bool} {c : Char} (h : ¬ kind c = true)
    (before after : Text) : (⟨before, c :: after⟩ : Place).skip kind = ⟨before, c :: after⟩ := by
  simp [skip, h]

end Place

/-- The ends of as many steps as there may be, the most steps first.  A step that reads nothing is
not repeated. -/
def repeated (step : Place → List Place) (x : Place) : List Place :=
  ((step x).flatMap fun e => if e.after.length < x.after.length then repeated step e else []) ++ [x]
termination_by x.after.length

/-- How a part of a text is put together. -/
inductive Pattern where
  | empty
  /-- One character of a kind. -/
  | char (kind : Char → Bool)
  | lineStart
  | seq (p q : Pattern)
  /-- The one or else the other. -/
  | choice (p q : Pattern)
  /-- Any number of times. -/
  | many (p : Pattern)

namespace Pattern

/-- Where a pattern may end that starts at a place, the preferred end first. -/
def ends : Pattern → Place → List Place
  | empty, x => [x]
  | char _, ⟨_, []⟩ => []
  | char kind, ⟨before, c :: after⟩ => if kind c then [⟨c :: before, after⟩] else []
  | lineStart, x => if x.before.head?.all (· == '\n') then [x] else []
  | seq p q, x => (p.ends x).flatMap q.ends
  | choice p q, x => p.ends x ++ q.ends x
  | many p, x => repeated p.ends x

/-- The preferred end. -/
def first? (p : Pattern) (x : Place) : Option Place := (p.ends x).head?

/-- What is matched at the first place, from some place on, where a pattern matches at all. -/
def findFrom? (p : Pattern) (before : Text) : Text → Option Text
  | [] => (p.first? ⟨before, []⟩).map (Place.upTo ⟨before, []⟩)
  | c :: after =>
    match p.first? ⟨before, c :: after⟩ with
    | some e => some (Place.upTo ⟨before, c :: after⟩ e)
    | none => p.findFrom? (c :: before) after

/-- What the search for a pattern finds in a text. -/
def find? (p : Pattern) (t : Text) : Option Text := p.findFrom? [] t

/-- One particular character. -/
def only (c : Char) : Pattern := char (· == c)

/-- A word. -/
def word : Text → Pattern
  | [] => empty
  | c :: t => (only c).seq (word t)

/-- At least once. -/
def oneOrMore (p : Pattern) : Pattern := p.seq p.many

/-- Once or not at all. -/
def optional (p : Pattern) : Pattern := p.choice empty

/-! ## Preferred ends -/

theorem repeated_eq (step : Place → List Place) (x : Place) : repeated step x =
    ((step x).flatMap fun e => if e.after.length < x.after.length then repeated step e else []) ++
      [x] := by
  rw [repeated]

section
variable {p q r : Pattern} {kind : Char → Bool} {x e : Place} {before after t rest : Text} {c d : Char}

theorem ends_char_cons : (char kind).ends ⟨before, c :: after⟩ =
    if kind c then [⟨c :: before, after⟩] else [] := rfl

theorem ends_lineStart : lineStart.ends x = if x.before.head?.all (· == '\n') then [x] else [] := rfl

theorem ends_seq : (p.seq q).ends x = (p.ends x).flatMap q.ends := rfl

theorem ends_optional : p.optional.ends x = p.ends x ++ [x] := rfl

theorem ends_many : p.many.ends x = ((p.ends x).flatMap fun e =>
    if e.after.length < x.after.length then p.many.ends e else []) ++ [x] :=
  repeated_eq p.ends x

theorem first?_eq : p.first? x = (p.ends x).head? := rfl

theorem first?_char_cons : (char kind).first? ⟨before, c :: after⟩ =
    if kind c then some ⟨c :: before, after⟩ else none := by
  rw [first?_eq, ends_char_cons]
  split <;> rfl

/-- **What follows is tried at every end in turn.** -/
theorem first?_seq (p q : Pattern) (x : Place) :
    (p.seq q).first? x = (p.ends x).findSome? q.first? := by
  rw [first?_eq, ends_seq, List.head?_flatMap]
  rfl

theorem first?_seq_assoc (p q r : Pattern) (x : Place) :
    ((p.seq q).seq r).first? x = (p.seq (q.seq r)).first? x := by
  rw [first?_eq, first?_eq, ends_seq, ends_seq, ends_seq, List.flatMap_assoc]
  rfl

theorem first?_lineStart_seq_of_startsLine (h : x.StartsLine) :
    (lineStart.seq p).first? x = p.first? x := by
  have hall : x.before.head?.all (· == '\n') = true := by
    cases hx : x.before.head? with
    | none => rfl
    | some c => simpa using h c hx
  rw [first?_seq, ends_lineStart, if_pos hall, List.findSome?_singleton]

theorem first?_lineStart_seq_of_ne (h : c ≠ '\n') :
    (lineStart.seq p).first? ⟨c :: before, after⟩ = none := by
  rw [first?_seq, ends_lineStart, if_neg (by simpa using h), List.findSome?_nil]

/-- What follows a single character is tried behind it only. -/
theorem first?_char_seq_cons : ((char kind).seq q).first? ⟨before, c :: after⟩ =
    if kind c then q.first? ⟨c :: before, after⟩ else none := by
  rw [first?_seq, ends_char_cons]
  split
  · exact List.findSome?_singleton
  · rfl

theorem first?_char_seq_nil : ((char kind).seq q).first? ⟨before, []⟩ = none := rfl

theorem first?_only_seq_self :
    ((only c).seq q).first? ⟨before, c :: after⟩ = q.first? ⟨c :: before, after⟩ :=
  first?_char_seq_cons.trans (if_pos (beq_self_eq_true c))

theorem first?_only_seq_of_ne (h : c ≠ d) : ((only d).seq q).first? ⟨before, c :: after⟩ = none :=
  first?_char_seq_cons.trans (if_neg (by simpa using h))

theorem first?_word_seq_append (w : Text) :
    ((word w).seq q).first? ⟨before, w ++ after⟩ = q.first? ⟨w.reverse ++ before, after⟩ := by
  induction w generalizing before with
  | nil => exact (first?_seq empty q _).trans List.findSome?_singleton
  | cons c w ih =>
    rw [List.cons_append, List.reverse_cons, List.append_assoc]
    exact (first?_seq_assoc (only c) (word w) q _).trans (first?_only_seq_self.trans ih)

theorem first?_word_seq_of_not_isPrefix {w : Text} (h : ¬ w <+: after) :
    ((word w).seq q).first? ⟨before, after⟩ = none := by
  induction w generalizing before after with
  | nil => exact absurd List.nil_prefix h
  | cons c w ih =>
    refine (first?_seq_assoc (only c) (word w) q _).trans ?_
    cases after with
    | nil => exact first?_char_seq_nil
    | cons d after =>
      by_cases hd : d = c
      · subst hd
        rw [first?_only_seq_self]
        exact ih fun hw => h (List.cons_prefix_cons.mpr ⟨rfl, hw⟩)
      · exact first?_only_seq_of_ne hd

theorem first?_optional_seq (p q : Pattern) (x : Place) :
    (p.optional.seq q).first? x = ((p.seq q).first? x).or (q.first? x) := by
  rw [first?_seq, first?_seq, ends_optional, List.findSome?_append, List.findSome?_singleton]

/-! ## Repetition -/

/-- A repetition can always end where it starts. -/
theorem first?_many_isSome (p : Pattern) (x : Place) : (p.many.first? x).isSome = true := by
  rw [first?_eq, ends_many, List.head?_append]
  cases (List.flatMap _ _).head? <;> rfl

/-- A repetition goes on behind the first match of what it repeats, if that reads anything. -/
theorem first?_many_of_first? (h : p.first? x = some e) (hlen : e.after.length < x.after.length) :
    p.many.first? x = p.many.first? e := by
  obtain ⟨es, hes⟩ : ∃ es, p.ends x = e :: es := List.head?_eq_some_iff.mp h
  obtain ⟨f, hf⟩ := Option.isSome_iff_exists.mp (first?_many_isSome p e)
  have hrest : (p.many.ends e).head? = some f := hf
  rw [hf, first?_eq, ends_many, hes, List.flatMap_cons, if_pos hlen, List.append_assoc,
    List.head?_append, hrest]
  rfl

theorem first?_many_of_first?_eq_none (h : p.first? x = none) : p.many.first? x = some x := by
  have hes : p.ends x = [] := List.head?_eq_none_iff.mp h
  rw [first?_eq, ends_many, hes]
  rfl

/-- What matches everywhere is tried behind the preferred end only. -/
theorem first?_seq_of_total (hq : ∀ y, (q.first? y).isSome = true) (x : Place) :
    (p.seq q).first? x = (p.first? x).bind q.first? := by
  rw [first?_seq, first?_eq]
  cases p.ends x with
  | nil => rfl
  | cons e es =>
    obtain ⟨f, hf⟩ := Option.isSome_iff_exists.mp (hq e)
    simp [hf]

theorem ends_manyChar_nil : (char kind).many.ends ⟨before, []⟩ = [⟨before, []⟩] :=
  ends_many

theorem ends_manyChar_cons : (char kind).many.ends ⟨before, c :: after⟩ =
    (if kind c then (char kind).many.ends ⟨c :: before, after⟩ else []) ++ [⟨before, c :: after⟩] := by
  rw [ends_many, ends_char_cons]
  split
  · simp
  · rfl

theorem first?_manyChar_seq_nil : ((char kind).many.seq q).first? ⟨before, []⟩ =
    q.first? ⟨before, []⟩ := by
  rw [first?_seq, ends_manyChar_nil, List.findSome?_singleton]

theorem first?_manyChar_seq_cons : ((char kind).many.seq q).first? ⟨before, c :: after⟩ =
    (if kind c then ((char kind).many.seq q).first? ⟨c :: before, after⟩ else none).or
      (q.first? ⟨before, c :: after⟩) := by
  rw [first?_seq, first?_seq, ends_manyChar_cons, List.findSome?_append, List.findSome?_singleton]
  split <;> rfl

/-- **What cannot start with a character of a kind** follows all of these that there are. -/
theorem first?_manyChar_seq (hq : ∀ b c a, kind c = true → q.first? ⟨b, c :: a⟩ = none)
    (x : Place) : ((char kind).many.seq q).first? x = q.first? (x.skip kind) := by
  obtain ⟨before, after⟩ := x
  induction after generalizing before with
  | nil => exact first?_manyChar_seq_nil
  | cons c after ih =>
    rw [first?_manyChar_seq_cons]
    by_cases hc : kind c = true
    · rw [if_pos hc, hq before c after hc, Option.or_none, ih, Place.skip_cons_of_pos hc]
    · rw [if_neg hc, Option.none_or, Place.skip_cons_of_neg hc]

/-- **What matches in the same way with a character of a kind before it** is not affected by a
repetition of these. -/
theorem first?_manyChar_seq_of_absorbs
    (hq : ∀ b c a e, kind c = true → q.first? ⟨c :: b, a⟩ = some e →
      q.first? ⟨b, c :: a⟩ = some e) (x : Place) :
    ((char kind).many.seq q).first? x = q.first? x := by
  obtain ⟨before, after⟩ := x
  induction after generalizing before with
  | nil => exact first?_manyChar_seq_nil
  | cons c after ih =>
    rw [first?_manyChar_seq_cons]
    by_cases hc : kind c = true
    · rw [if_pos hc, ih]
      cases h : q.first? ⟨c :: before, after⟩ with
      | none => rfl
      | some e => exact (hq before c after e hc h).symm
    · rw [if_neg hc, Option.none_or]

theorem first?_manyChar (x : Place) : (char kind).many.first? x = some (x.skip kind) := by
  obtain ⟨before, after⟩ := x
  induction after generalizing before with
  | nil => exact first?_many_of_first?_eq_none rfl
  | cons c after ih =>
    by_cases hc : kind c = true
    · have hchar : (char kind).first? ⟨before, c :: after⟩ = some ⟨c :: before, after⟩ :=
        first?_char_cons.trans (if_pos hc)
      rw [first?_many_of_first? hchar (Nat.lt_succ_self _), ih, Place.skip_cons_of_pos hc]
    · have hchar : (char kind).first? ⟨before, c :: after⟩ = none :=
        first?_char_cons.trans (if_neg hc)
      rw [first?_many_of_first?_eq_none hchar, Place.skip_cons_of_neg hc]

/-! ## Searches -/

theorem findFrom?_nil :
    p.findFrom? before [] = (p.first? ⟨before, []⟩).map (Place.upTo ⟨before, []⟩) := rfl

theorem findFrom?_cons_of_first? (h : p.first? ⟨before, c :: t⟩ = some e) :
    p.findFrom? before (c :: t) = some (Place.upTo ⟨before, c :: t⟩ e) := by
  rw [findFrom?, h]

/-- A search from a place ends there if the pattern matches. -/
theorem findFrom?_of_first? {s : Text}
    (h : p.first? ⟨before, t⟩ = some ⟨s.reverse ++ before, rest⟩) :
    p.findFrom? before t = some s := by
  cases t with
  | nil => rw [findFrom?_nil, h, Option.map_some, Place.upTo_append]
  | cons c t => rw [findFrom?_cons_of_first? h, Place.upTo_append]

theorem findFrom?_cons_of_first?_eq_none (h : p.first? ⟨before, c :: t⟩ = none) :
    p.findFrom? before (c :: t) = p.findFrom? (c :: before) t := by
  rw [findFrom?, h]

/-- Within a line a pattern that starts with a line is not found. -/
theorem findFrom?_lineStart_seq_within {line : Text} (hc : c ≠ '\n') (hline : '\n' ∉ line) :
    (lineStart.seq p).findFrom? (c :: before) line = none := by
  induction line generalizing before c with
  | nil => rw [findFrom?_nil, first?_lineStart_seq_of_ne hc, Option.map_none]
  | cons d line ih =>
    obtain ⟨hd, hline⟩ := not_or.mp (mt List.mem_cons.mpr hline)
    rw [findFrom?_cons_of_first?_eq_none (first?_lineStart_seq_of_ne hc)]
    exact ih (Ne.symm hd) hline

theorem findFrom?_lineStart_seq_toNext {line : Text} (hc : c ≠ '\n') (hline : '\n' ∉ line) :
    (lineStart.seq p).findFrom? (c :: before) (line ++ '\n' :: rest) =
      (lineStart.seq p).findFrom? ('\n' :: (line.reverse ++ c :: before)) rest := by
  induction line generalizing before c with
  | nil => exact findFrom?_cons_of_first?_eq_none (first?_lineStart_seq_of_ne hc)
  | cons d line ih =>
    obtain ⟨hd, hline⟩ := not_or.mp (mt List.mem_cons.mpr hline)
    rw [List.cons_append, findFrom?_cons_of_first?_eq_none (first?_lineStart_seq_of_ne hc),
      ih (Ne.symm hd) hline, List.reverse_cons, List.append_assoc]
    rfl

/-- A pattern that starts with a line and does not match at the last line is not found there. -/
theorem findFrom?_lineStart_seq_last {line : Text} (hline : '\n' ∉ line)
    (h : (lineStart.seq p).first? ⟨before, line⟩ = none) :
    (lineStart.seq p).findFrom? before line = none := by
  cases line with
  | nil => rw [findFrom?_nil, h, Option.map_none]
  | cons c line =>
    obtain ⟨hc, hline⟩ := not_or.mp (mt List.mem_cons.mpr hline)
    rw [findFrom?_cons_of_first?_eq_none h]
    exact findFrom?_lineStart_seq_within (Ne.symm hc) hline

/-- **A pattern that starts with a line and does not match at one** is looked for from the next line
on. -/
theorem findFrom?_lineStart_seq_next {line : Text} (hline : '\n' ∉ line)
    (h : (lineStart.seq p).first? ⟨before, line ++ '\n' :: rest⟩ = none) :
    (lineStart.seq p).findFrom? before (line ++ '\n' :: rest) =
      (lineStart.seq p).findFrom? ('\n' :: (line.reverse ++ before)) rest := by
  cases line with
  | nil => exact findFrom?_cons_of_first?_eq_none h
  | cons c line =>
    obtain ⟨hc, hline⟩ := not_or.mp (mt List.mem_cons.mpr hline)
    rw [List.cons_append] at h ⊢
    rw [findFrom?_cons_of_first?_eq_none h, findFrom?_lineStart_seq_toNext (Ne.symm hc) hline,
      List.reverse_cons, List.append_assoc]
    rfl

end
end Pattern
end GraphLint.Text
