import GraphLint.Expression.Quote
/-! # The scanner as an iterator

The scan of quotes as a client runs it: every call goes on to the next character outside all
literals and yields it, and between two calls the client may ask which literal is open.  A scanner
keeps a flag for each kind of quote, and a quote toggles its own flag only while the other one is
not set. -/
namespace GraphLint.Expression

/-- Which literals are open. -/
structure Flags where
  inSingle : Bool := false
  inDouble : Bool := false
  deriving DecidableEq, Repr

namespace Flags

/-- Whether a character is yielded, and the flags after it. -/
def meet (flags : Flags) (c : Char) : Bool × Flags :=
  if c = '"' ∧ flags.inSingle = false then (false, { flags with inDouble := !flags.inDouble })
  else if c = '\'' ∧ flags.inDouble = false then (false, { flags with inSingle := !flags.inSingle })
  else (!(flags.inSingle || flags.inDouble), flags)

/-- The kind of the literal that is open, if any. -/
def open? (flags : Flags) : Option QuoteKind :=
  if flags.inSingle then some .single else if flags.inDouble then some .double else none

end Flags

/-- A scanner: the characters that it has not read, and its flags. -/
structure Scanner where
  rest : Text
  flags : Flags := {}
  deriving DecidableEq, Repr

namespace Scanner

/-- A scanner that has read nothing of a text yet. -/
def ofText (text : Text) : Scanner := { rest := text }

/-- The next character that is yielded, if any, and the scanner after it. -/
def nextFrom (flags : Flags) : Text → Option Char × Scanner
  | [] => (none, ⟨[], flags⟩)
  | c :: rest =>
    match flags.meet c with
    | (true, after) => (some c, ⟨rest, after⟩)
    | (false, after) => nextFrom after rest

/-- One call: the next character, if any, and the scanner after it. -/
def next (s : Scanner) : Option Char × Scanner := nextFrom s.flags s.rest

/-- A scanner that has yielded a character has read it. -/
theorem length_rest_of_next {s after : Scanner} {c : Char} (h : s.next = (some c, after)) :
    after.rest.length < s.rest.length := by
  obtain ⟨rest, flags⟩ := s
  unfold next at h
  induction rest generalizing flags with
  | nil => cases h
  | cons d rest ih =>
    rw [nextFrom] at h
    split at h
    · cases h
      exact Nat.lt_add_one _
    · exact Nat.lt_succ_of_lt (ih _ h)

/-- The characters yielded by calls up to the first that yields none, and the scanner then. -/
def drain (s : Scanner) : Text × Scanner :=
  match _ : s.next with
  | (none, after) => ([], after)
  | (some c, after) => (c :: after.drain.1, after.drain.2)
termination_by s.rest.length
decreasing_by all_goals exact length_rest_of_next (by assumption)

end Scanner
end GraphLint.Expression
