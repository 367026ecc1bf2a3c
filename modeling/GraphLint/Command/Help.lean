import GraphLint.Command.Grammar
/-! # Help texts

The help text of a command, laid out from its grammar: what the command does, how it is called, and a
table for its commands, its operand and its options.  A command with a longer description has a long
form too, in which every option has lines of its own. -/
namespace GraphLint.Command
open Styled

/-- A line of a table: what is written, and what it means. -/
structure Entry where
  head : Styled
  about : String
  deriving DecidableEq, Repr

/-- Spaces. -/
def blanks (n : Nat) : Styled := ofText (List.replicate n ' ')

/-- A table with its second column aligned. -/
def columns (entries : List Entry) : Styled :=
  let widest := (entries.map (·.head.width)).foldl max 0
  entries.flatMap fun e =>
    blanks 2 ++ e.head ++ blanks (widest - e.head.width + 2) ++ plain (e.about ++ "\n")

/-- A table in which every description stands below its head, with an empty line between entries. -/
def paragraphs : List Entry → Styled
  | [] => []
  | e :: rest =>
    let gap := if rest.isEmpty then [] else plain "\n"
    blanks 2 ++ e.head ++ plain "\n" ++ blanks 10 ++ plain (e.about ++ "\n") ++ gap ++
      paragraphs rest

/-- A description and the note after it. -/
def withNote (about note : String) : String := if note.isEmpty then about else about ++ " " ++ note

/-- An option in a table. -/
def Opt.entry (o : Opt) : Entry :=
  let short := match o.short with
    | some c => textWithin .literal ['-', c] ++ plain ", "
    | none => blanks 4
  let value := match o.value with
    | some v => plain (" <" ++ v.placeholder ++ ">")
    | none => []
  ⟨short ++ within .literal ("--" ++ o.long) ++ value, withNote o.about o.note⟩

/-- A part of a help text under its title, if there is anything in it. -/
def titled (title : String) (table : Styled) : Styled :=
  if table.isEmpty then [] else plain "\n" ++ within .title title ++ plain "\n" ++ table

namespace Grammar

/-- How a command is called. -/
def usage (g : Grammar) : Styled :=
  let options := if (g.options ++ g.standing).isEmpty then "" else " [OPTIONS]"
  let operand := match g.operand with
    | some o => " " ++ o.label
    | none => if g.commands.isEmpty then "" else " <COMMAND>"
  within .title "Usage:" ++ plain " " ++ within .literal g.path ++ plain (options ++ operand)

/-- What the option for help does. -/
def helpAbout (g : Grammar) (long : Bool) : String :=
  if g.details.isNone then "Print help"
  else if long then "Print help (see a summary with '-h')"
  else "Print help (see more with '--help')"

/-- The options of a command, those that every command has at the end. -/
def optionEntries (g : Grammar) (long : Bool) : List Entry :=
  let help := if g.hasHelp then [Opt.help (g.helpAbout long)] else []
  let version := if g.hasVersion then [Opt.version] else []
  (g.options ++ help ++ version).map Opt.entry

/-- The help text of a command. -/
def help (g : Grammar) (long : Bool) : Styled :=
  let long := long && g.details.isSome
  let about := if long then g.details.getD g.about else g.about
  let operands := g.operand.toList.map fun o => ⟨plain o.label, withNote o.about o.note⟩
  let commands := g.commands.map fun c => ⟨within .literal c.1, c.2⟩
  plain (about ++ "\n\n") ++ g.usage ++ plain "\n" ++ titled "Commands:" (columns commands) ++
    titled "Arguments:" (columns operands) ++
    titled "Options:" ((if long then paragraphs else columns) (g.optionEntries long))

end Grammar
end GraphLint.Command
