import GraphLint.Files.Path
/-! # Exclude patterns

The patterns of the settings file, matched against whole paths.  A `*` stands for any characters,
slashes too; a `?` for one character; brackets for one character of a set; and `**`, which must be a
path component of its own, for any number of leading components. -/
namespace GraphLint.Files

/-- A character, or the characters between two bounds. -/
structure CharRange where
  first : Char
  last : Char
  deriving DecidableEq, Repr

/-- Whether a set holds a character. -/
def CharRange.anyHas (set : List CharRange) (c : Char) : Bool :=
  set.any fun r => r.first ≤ c && c ≤ r.last

namespace Pattern

/-- A piece of a pattern. -/
inductive Piece where
  | char (c : Char)
  | anyChar
  | anyChars
  /-- Any number of leading components. -/
  | anyComponents
  | oneOf (set : List CharRange)
  | noneOf (set : List CharRange)
  deriving DecidableEq, Repr

/-- What is wrong with a pattern. -/
inductive Problem where
  | wildcards
  | component
  | brackets
  deriving DecidableEq, Repr

/-- The wording of a problem. -/
def Problem.text : Problem → String
  | wildcards => "wildcards are either regular `*` or recursive `**`"
  | component => "recursive wildcards must form a single path component"
  | brackets => "invalid range pattern"

/-- A problem and the number of characters before it. -/
structure Fault where
  problem : Problem
  position : Nat
  deriving DecidableEq, Repr

/-- The wording of a fault. -/
def Fault.text (f : Fault) : String :=
  "Pattern syntax error near position " ++ toString f.position ++ ": " ++ f.problem.text

/-- The set that the characters between brackets denote. -/
def readSet : Text → List CharRange
  | a :: '-' :: b :: rest => ⟨a, b⟩ :: readSet rest
  | a :: rest => ⟨a, a⟩ :: readSet rest
  | [] => []

/-- The characters up to a closing bracket, of which the first one may be a bracket itself, and how
many characters of the pattern they take. -/
def readBrackets? : Text → Option (Text × Nat)
  | [] => none
  | c :: rest =>
    let inner := rest.takeWhile (· != ']')
    if inner.length < rest.length then some (c :: inner, inner.length + 2) else none

/-- The piece after an opening bracket, and how many characters it takes. -/
def readBracketPiece? : Text → Option (Piece × Nat)
  | '!' :: rest => (readBrackets? rest).map fun (set, n) => (.noneOf (readSet set), n + 1)
  | rest => (readBrackets? rest).map fun (set, n) => (.oneOf (readSet set), n)

/-- The pieces of a pattern from a position on, where `last` is the character before it, in at most
`fuel` steps. -/
def readPieces : (fuel : Nat) → (position : Nat) → (last : Option Char) → Text →
    Except Fault (List Piece)
  | 0, _, _, _ => .ok []
  | _, _, _, [] => .ok []
  | fuel + 1, position, last, c :: rest =>
    if c = '?' then do return .anyChar :: (← readPieces fuel (position + 1) (some c) rest)
    else if c = '*' then
      let stars := (rest.takeWhile (· == '*')).length + 1
      let after := rest.drop (stars - 1)
      if 2 < stars then .error ⟨.wildcards, position + 2⟩
      else if stars = 1 then do
        return .anyChars :: (← readPieces fuel (position + 1) (some c) rest)
      else if last.any (· != '/') then .error ⟨.component, position - 1⟩
      else
        match after with
        | [] => .ok [.anyComponents]
        | '/' :: after => do
          return .anyComponents :: (← readPieces fuel (position + 3) (some '/') after)
        | _ => .error ⟨.component, position + 2⟩
    else if c = '[' then
      match readBracketPiece? rest with
      | none => .error ⟨.brackets, position⟩
      | some (piece, n) => do
        return piece :: (← readPieces fuel (position + n + 1) (some ']') (rest.drop n))
    else do return .char c :: (← readPieces fuel (position + 1) (some c) rest)

/-- The pieces of a pattern. -/
def read (pattern : Text) : Except Fault (List Piece) :=
  readPieces (pattern.length + 1) 0 none pattern

/-- Whether some rest of a text satisfies a condition, the text itself included. -/
def anyRest (p : Text → Bool) : Text → Bool
  | [] => p []
  | c :: t => p (c :: t) || anyRest p t

/-- Whether a text satisfies a condition after any number of leading components, or after all its
characters. -/
def anyRestAfterSlash (p : Text → Bool) : Text → Bool
  | [] => p []
  | c :: t => (c == '/' && p t) || anyRestAfterSlash p t

/-- Whether a text consists of what the pieces stand for. -/
def covers : List Piece → Text → Bool
  | [], t => t.isEmpty
  | .anyChars :: ps, t => anyRest (covers ps) t
  | .anyComponents :: ps, t => covers ps t || anyRestAfterSlash (covers ps) t
  | .char x :: ps, t =>
    match t with
    | [] => false
    | c :: t => c == x && covers ps t
  | .anyChar :: ps, t =>
    match t with
    | [] => false
    | _ :: t => covers ps t
  | .oneOf set :: ps, t =>
    match t with
    | [] => false
    | c :: t => CharRange.anyHas set c && covers ps t
  | .noneOf set :: ps, t =>
    match t with
    | [] => false
    | c :: t => !CharRange.anyHas set c && covers ps t

end Pattern
end GraphLint.Files
