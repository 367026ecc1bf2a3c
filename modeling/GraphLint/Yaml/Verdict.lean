import GraphLint.Text.Word
import GraphLint.Yaml.Build
/-! # The verdict on a text

A text that is not blank is YAML when every document of it stands for a value.  Otherwise the first
failure is reported, with a line number that is read from its message: the first number after the word
`line`, and else the line of the failure's own place. -/
namespace GraphLint.Yaml

/-- Why a text is not YAML. -/
structure FormError where
  /-- The line, from zero. -/
  line : UInt32
  message : String
  deriving DecidableEq, Repr

/-- What stands before a number in a message. -/
def lineWord : Text := "line ".toList

/-- The digits after the first word `line` of a message that has some; `inWord` tells whether the
message goes on with a word that has begun before. -/
def lineDigits? : (inWord : Bool) → Text → Option Text
  | _, [] => none
  | inWord, c :: rest =>
    let digits :=
      if inWord then []
      else ((Text.after? lineWord (c :: rest)).getD []).takeWhile Text.isDecimalDigit
    if digits.isEmpty then lineDigits? (Text.isWord c) rest else some digits

/-- A number of at most 32 bits in ASCII digits. -/
def word? (digits : Text) : Option Nat := (parseDigits? 10 digits).filter (· < Nat.pow 2 32)

/-- The line of a place in 32 bits, from one. -/
def Mark.lineFromOne (m : Mark) : UInt32 := UInt32.ofNat (m.line + 1)

/-- The number after the first word `line` of a text that has one. -/
def namedLine? (t : Text) : Option Nat := (lineDigits? false t).bind word?

/-- The line that a failure is about, from zero. -/
def Failure.line (f : Failure) : Nat :=
  let own := f.mark?.map (·.lineFromOne.toNat)
  ((namedLine? f.message.toList).or own).getD 0 - 1

/-- The first failure of a list of documents. -/
def firstFailure? : List Document → Option Failure
  | [] => none
  | d :: rest =>
    match d.value with
    | .error failure => some failure
    | .ok _ => firstFailure? rest

/-- Whether a text is YAML, and if not, why. -/
def check (text : Text) : Except FormError Unit :=
  if (Text.trim text).isEmpty then .ok ()
  else
    match firstFailure? (documents text) with
    | some failure => .error ⟨UInt32.ofNat failure.line, failure.message⟩
    | none => .ok ()

end GraphLint.Yaml
