import GraphLint.Text.Lines
/-! # TOML values and tables

A settings file is a table.  How a table came about decides who may still add to it: a table written
in braces is complete, one with a header of its own cannot be extended by dotted keys, and one that
only a longer header or a dotted key has mentioned is open to others of its kind. -/
namespace GraphLint.Toml

/-- How a table came about. -/
inductive TableForm where
  /-- Written in braces. -/
  | inline
  /-- Under a header of its own. -/
  | header
  /-- Mentioned by a longer header only. -/
  | implied
  /-- Mentioned by dotted keys. -/
  | dotted
  deriving DecidableEq, Repr

/-- A value.  Of numbers and dates only the kind is kept. -/
inductive Value where
  | text (t : Text)
  | boolean (b : Bool)
  | number
  | moment
  | list (items : List Value)
  | table (form : TableForm) (entries : List (Text × Value))
  /-- The tables under the headers in double brackets with one name, first to last. -/
  | tables (elements : List (List (Text × Value)))
  deriving Repr

/-- The entries of a table. -/
abbrev Entries := List (Text × Value)

namespace Entries

/-- The value of a key. -/
def find? (es : Entries) (key : Text) : Option Value := es.lookup key

/-- With another value for a key. -/
def set (es : Entries) (key : Text) (value : Value) : Entries :=
  es.filter (·.1 != key) ++ [(key, value)]

/-- Changes the table at a path, which comes about on the way if it is missing.  `dotted` tells that
the path is part of a dotted key and not of a header. -/
def change (dotted : Bool) (f : TableForm → Entries → Option Entries) :
    (path : List Text) → TableForm → Entries → Option Entries
  | [], form, es => f form es
  | key :: path, _, es =>
    match es.find? key with
    | none => do
      let form := if dotted then TableForm.dotted else .implied
      return es.set key (.table form (← change dotted f path form []))
    | some (.table form inner) =>
      if form = .inline ∨ (dotted ∧ form = .header) then none
      else do return es.set key (.table form (← change dotted f path form inner))
    | some (.tables elements) => do
      let last ← elements.getLast?
      return es.set key (.tables (elements.dropLast ++ [← change dotted f path .header last]))
    | some _ => none

/-- With a new value under a dotted key.  All but the last part of the key name dotted tables. -/
def insert (path : List Text) (key : Text) (value : Value) (form : TableForm) (es : Entries) :
    Option Entries :=
  change true
    (fun form inner =>
      if (form == .dotted) == path.isEmpty || (inner.find? key).isSome then none
      else some (inner.set key value))
    path form es

/-- With a header for a table, which may have been implied before. -/
def openTable (key : Text) (es : Entries) : Option Entries :=
  match es.find? key with
  | none => some (es.set key (.table .header []))
  | some (.table .implied inner) => some (es.set key (.table .header inner))
  | some _ => none

/-- With one more table under a header in double brackets. -/
def openElement (key : Text) (es : Entries) : Option Entries :=
  match es.find? key with
  | none => some (es.set key (.tables [[]]))
  | some (.tables elements) => some (es.set key (.tables (elements ++ [[]])))
  | some _ => none

end Entries
end GraphLint.Toml
