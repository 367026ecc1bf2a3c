import GraphLint.Text.Blank
/-! # Quotes in an expression

A single quote opens and closes a literal unless a double-quoted literal is open, and the other
way round.  The scan yields the characters outside all literals; the quotes themselves and what
stands between them are swallowed.  At most one literal is open at a time, so the state of the
scan is the kind of that literal, if any. -/
namespace GraphLint.Expression

/-- The two kinds of quotes. -/
inductive QuoteKind where
  | single
  | double
  deriving DecidableEq, Repr

namespace QuoteKind

/-- The word for a kind of quote. -/
def word : QuoteKind → String
  | single => "single"
  | double => "double"

/-- The character that opens and closes a literal of this kind. -/
def mark : QuoteKind → Char
  | single => '\''
  | double => '"'

end QuoteKind

/-- The literal open after a character. -/
def nextOpen (quote : Option QuoteKind) (c : Char) : Option QuoteKind :=
  match quote with
  | some kind => if c = kind.mark then none else some kind
  | none => if c = '"' then some .double else if c = '\'' then some .single else none

/-- Whether a character is yielded when it is met with `quote` open. -/
def yields (quote : Option QuoteKind) (c : Char) : Bool :=
  quote.isNone && c != '"' && c != '\''

/-- The characters outside all literals, when the scan starts with `quote` open. -/
def unquotedFrom : (quote : Option QuoteKind) → Text → Text
  | _, [] => []
  | quote, c :: rest =>
    if yields quote c then c :: unquotedFrom (nextOpen quote c) rest
    else unquotedFrom (nextOpen quote c) rest

/-- The literal that is open after a text. -/
def openAfter (quote : Option QuoteKind) (text : Text) : Option QuoteKind :=
  text.foldl nextOpen quote

/-- The characters of a text outside all literals. -/
def unquoted (text : Text) : Text := unquotedFrom none text

/-- The literal that a text leaves open. -/
def openQuote (text : Text) : Option QuoteKind := openAfter none text

/-- No literal is open right after a character that the scan yields. -/
theorem nextOpen_of_yields {quote : Option QuoteKind} {c : Char} (h : yields quote c = true) :
    nextOpen quote c = none := by
  cases quote with
  | some kind => simp [yields] at h
  | none =>
    simp only [yields, Option.isNone_none, Bool.true_and, Bool.and_eq_true, bne_iff_ne] at h
    simp [nextOpen, h.1, h.2]

end GraphLint.Expression
