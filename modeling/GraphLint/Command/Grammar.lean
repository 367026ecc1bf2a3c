import GraphLint.Command.Styled
/-! # Command lines

What a command accepts - options, operands and further commands - as a value, and the reading of a
list of arguments by it.

A value is *settled* when the next option or the end of the arguments shows that it is complete; only
then is it examined.  So of two faults the one that is met first by this rule is reported, and an
unknown option is met before the unsettled value that precedes it. -/
namespace GraphLint.Command
open Styled

/-- Which texts an option or an operand takes. -/
inductive ValueKind where
  | text
  /-- Any text that is not empty. -/
  | path
  | choice (words : List String)
  /-- A number from zero to the bound. -/
  | number (bound : Nat)
  deriving DecidableEq, Repr

/-- What the value of an option is. -/
structure ValueSpec where
  placeholder : String
  kind : ValueKind
  deriving DecidableEq, Repr

/-- An option.  One without a value is a switch. -/
structure Opt where
  short : Option Char
  long : String
  value : Option ValueSpec
  about : String
  /-- A note on the default and the possible values. -/
  note : String := ""
  deriving DecidableEq, Repr

/-- What stands on a command line by itself. -/
structure Operand where
  name : String
  many : Bool
  kind : ValueKind
  about : String
  note : String := ""
  deriving DecidableEq, Repr

/-- What a command accepts. -/
structure Grammar where
  /-- The words that call the command. -/
  path : String
  about : String
  /-- A longer description, if there is one. -/
  details : Option String := none
  operand : Option Operand := none
  options : List Opt
  /-- The commands below it, each with its description. -/
  commands : List (String × String) := []
  hasHelp : Bool := true
  hasVersion : Bool := false
  deriving DecidableEq, Repr

namespace Opt

/-- An option as it is written in messages. -/
def label (o : Opt) : String :=
  match o.value with
  | some v => "--" ++ o.long ++ " <" ++ v.placeholder ++ ">"
  | none => "--" ++ o.long

/-- The option that shows a help text. -/
def help (about : String) : Opt := ⟨some 'h', "help", none, about, ""⟩

/-- The option that shows the version. -/
def version : Opt := ⟨some 'V', "version", none, "Print version", ""⟩

end Opt

/-- An operand as it is written in messages. -/
def Operand.label (o : Operand) : String := "[" ++ o.name ++ "]" ++ if o.many then "..." else ""

/-- Why a command line is refused. -/
inductive Refusal where
  | unexpectedArgument (argument : Text)
  | unknownCommand (argument : Text)
  | commandRequired (program : String)
  | valueRequired (label : String)
  | invalidValue (value : Text) (label : String) (reason : Option String)
  | repeated (label : String)
  | unexpectedValue (value : Text) (label : String)
  | conflict (label other : String)
  deriving DecidableEq, Repr

/-- The wording of a refusal. -/
def Refusal.message : Refusal → Styled
  | unexpectedArgument a =>
    plain "unexpected argument '" ++ textWithin .refused a ++ plain "' found"
  | unknownCommand a => plain "unrecognized subcommand '" ++ textWithin .refused a ++ plain "'"
  | commandRequired p =>
    plain "'" ++ within .refused p ++
      plain "' requires a subcommand but one was not provided"
  | valueRequired l =>
    plain "a value is required for '" ++ within .refused l ++ plain "' but none was supplied"
  | invalidValue v l reason =>
    plain "invalid value '" ++ textWithin .refused v ++ plain "' for '" ++
      within .literal l ++ plain "'" ++ plain ((reason.map (": " ++ ·)).getD "")
  | repeated l =>
    plain "the argument '" ++ within .refused l ++ plain "' cannot be used multiple times"
  | unexpectedValue v l =>
    plain "unexpected value '" ++ textWithin .refused v ++ plain "' for '" ++
      within .literal l ++ plain "' found; no more were expected"
  | conflict l other =>
    plain "the argument '" ++ within .refused l ++ plain "' cannot be used with '" ++
      within .refused other ++ plain "'"

/-- Why reading ends before the last argument. -/
inductive Stop where
  | refused (r : Refusal)
  /-- A help text was asked for, perhaps the long one. -/
  | help (g : Grammar) (long : Bool)
  /-- Nothing was given where something is needed. -/
  | nothingGiven (g : Grammar)
  | version
  deriving DecidableEq, Repr

/-! ## Values -/

/-- The reason why a text is no number from zero to `bound`. -/
def numberFault? (bound : Nat) (t : Text) : Option String :=
  let (negative, digits) := match t with
    | '-' :: r => (true, r)
    | '+' :: r => (false, r)
    | _ => (false, t)
  if t.isEmpty then some "cannot parse integer from empty string"
  else if digits.isEmpty || !digits.all Char.isDigit then some "invalid digit found in string"
  else
    let n := digits.foldl (fun n c => 10 * n + (c.toNat - '0'.toNat)) 0
    if negative then
      if Nat.pow 2 63 < n then some "number too small to fit in target type"
      else if n = 0 then none
      else some (toString (-(n : Int)) ++ " is not in 0..=" ++ toString bound)
    else if Nat.pow 2 63 ≤ n then some "number too large to fit in target type"
    else if bound < n then some (toString n ++ " is not in 0..=" ++ toString bound)
    else none

/-- Why a value is refused, if it is. -/
def ValueKind.refusal? (kind : ValueKind) (label : String) (value : Text) : Option Refusal :=
  match kind with
  | text => none
  | path => if value.isEmpty then some (.valueRequired label) else none
  | choice words =>
    if value.isEmpty then some (.valueRequired label)
    else if words.contains (String.ofList value) then none
    else some (.invalidValue value label none)
  | number bound => (numberFault? bound value).map fun reason => .invalidValue value label (some reason)

/-! ## Reading -/

/-- What is not yet settled. -/
inductive Pending where
  | nothing
  | option (o : Opt) (spec : ValueSpec) (value : Option Text)
  | operands (words : List Text)
  deriving DecidableEq, Repr

/-- What has been read of a command line. -/
structure Reading where
  /-- The options, with the long names and the values, in the order in which they were settled. -/
  options : List (String × Text) := []
  operands : List Text := []
  pending : Pending := .nothing
  deriving DecidableEq, Repr

namespace Reading

/-- The value that an option was given. -/
def value? (r : Reading) (long : String) : Option Text := r.options.lookup long

/-- Whether a switch was given. -/
def has (r : Reading) (long : String) : Bool := (r.value? long).isSome

/-- Whether the next word is the value of an option. -/
def isAwaiting (r : Reading) : Bool :=
  match r.pending with
  | .option _ _ none => true
  | _ => false

/-- Refuses if there is a reason to. -/
def refuseIf (reason : Option Refusal) (r : Reading) : Except Stop Reading :=
  match reason with
  | some refusal => .error (.refused refusal)
  | none => .ok r

/-- After one more option, which must not have been given before. -/
def addOption (r : Reading) (o : Opt) (kind : ValueKind) (value : Text) : Except Stop Reading :=
  if r.has o.long then .error (.refused (.repeated o.label))
  else refuseIf (kind.refusal? o.label value) { r with options := r.options ++ [(o.long, value)] }

/-- After what is pending has been settled. -/
def settle (g : Grammar) (r : Reading) : Except Stop Reading :=
  match r.pending with
  | .nothing => .ok r
  | .option o _ none => .error (.refused (.valueRequired o.label))
  | .option o spec (some value) => addOption { r with pending := .nothing } o spec.kind value
  | .operands words =>
    let refusal := g.operand.bind fun o => words.findSome? (o.kind.refusal? o.label)
    refuseIf refusal { r with operands := r.operands ++ words, pending := .nothing }

/-- After an option was met, with the value that is attached to it. -/
def meet (g : Grammar) (o : Opt) (attached : Option Text) (r : Reading) : Except Stop Reading := do
  match o.value with
  | some spec =>
    let r ← r.settle g
    match attached with
    | some value => r.addOption o spec.kind value
    | none => return { r with pending := .option o spec none }
  | none => (← r.settle g).addOption o .text []

end Reading

namespace Grammar

/-- The options of every command that are answered by a text. -/
def standing (g : Grammar) : List Opt :=
  (if g.hasHelp then [Opt.help ""] else []) ++ (if g.hasVersion then [Opt.version] else [])

/-- The option with a long name. -/
def ofLong? (g : Grammar) (name : Text) : Option Opt :=
  (g.options ++ g.standing).find? fun o => o.long.toList == name

/-- The option with a letter. -/
def ofShort? (g : Grammar) (c : Char) : Option Opt :=
  (g.options ++ g.standing).find? fun o => o.short == some c

/-- After an option was met; asking for the help text or the version ends the reading. -/
def meet (g : Grammar) (o : Opt) (long : Bool) (attached : Option Text) (r : Reading) :
    Except Stop Reading :=
  if g.standing.contains o then do
    let _ ← r.settle g
    .error (if o.long = "help" then .help g long else .version)
  else r.meet g o attached

/-- A long option: a name, and perhaps a value after an equals sign. -/
def readLong (g : Grammar) (t : Text) (r : Reading) : Except Stop Reading :=
  let name := t.takeWhile (· != '=')
  let attached := (t.dropWhile (· != '=')).tail?
  match g.ofLong? name, attached with
  | none, _ => .error (.refused (.unexpectedArgument ('-' :: '-' :: name)))
  | some o, some value =>
    if o.value.isSome then g.meet o true (some value) r
    else .error (.refused (.unexpectedValue value o.label))
  | some o, none => g.meet o true none r

/-- Letters of options.  The first that takes a value takes the rest, without the equals sign it may
start with. -/
def readLetters (g : Grammar) : Text → Reading → Except Stop Reading
  | [], r => .ok r
  | c :: rest, r =>
    match g.ofShort? c with
    | none => .error (.refused (.unexpectedArgument ['-', c]))
    | some o =>
      if o.value.isSome then
        let attached := match rest with
          | [] => none
          | '=' :: value => some value
          | value => some value
        g.meet o false attached r
      else
        match g.meet o false none r with
        | .error stop => .error stop
        | .ok r => readLetters g rest r

/-- Whether a word calls a command. -/
def isCommand (g : Grammar) (word : Text) : Bool := g.commands.any fun c => c.1.toList == word

/-- Why a word that has no place is refused. -/
def misplaced (g : Grammar) (escaped : Bool) (word : Text) : Refusal :=
  if g.commands.isEmpty || (escaped && g.isCommand word) then .unexpectedArgument word
  else .unknownCommand word

/-- Whether there is room for one more operand. -/
def hasRoom (g : Grammar) (r : Reading) : Bool :=
  match g.operand, r.pending with
  | none, _ => false
  | some o, .operands (_ :: _) => o.many
  | some o, _ => o.many || r.operands.isEmpty

/-- A word that is neither an option nor the value of one. -/
def readOperand (g : Grammar) (escaped : Bool) (word : Text) (r : Reading) : Except Stop Reading :=
  if !g.hasRoom r then .error (.refused (g.misplaced escaped word))
  else
    match r.pending with
    | .operands words => .ok { r with pending := .operands (words ++ [word]) }
    | _ => do return { (← r.settle g) with pending := .operands [word] }

/-- One argument before the escape `--`. -/
def readArgument (g : Grammar) (argument : Text) (r : Reading) : Except Stop Reading :=
  match argument with
  | '-' :: '-' :: t => g.readLong t r
  | '-' :: c :: t => g.readLetters (c :: t) r
  | word =>
    match r.pending with
    | .option o spec none => .ok { r with pending := .option o spec (some word) }
    | _ => g.readOperand false word r

/-- Reads arguments up to their end or to the word that calls a command.  After `--` every argument is
an operand. -/
def read (g : Grammar) : (escaped : Bool) → List Text → Reading →
    Except Stop (Reading × Option (Text × List Text))
  | _, [], r => .ok (r, none)
  | true, word :: rest, r =>
    match g.readOperand true word r with
    | .error stop => .error stop
    | .ok r => read g true rest r
  | false, argument :: rest, r =>
    if !r.isAwaiting && g.isCommand argument then .ok (r, some (argument, rest))
    else if argument = ['-', '-'] then read g true rest r
    else
      match g.readArgument argument r with
      | .error stop => .error stop
      | .ok r => read g false rest r

end Grammar
end GraphLint.Command
