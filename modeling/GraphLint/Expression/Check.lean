import GraphLint.Expression.Marker
import GraphLint.Expression.Quote
/-! # Well-formed expressions

Three structural checks on the body of an expression, run in a fixed order so that the first
failure wins: brackets outside quotes are balanced and no quote stays open; no operator sequence
is malformed and none ends the body; every `?` outside quotes has its `:`.  None of them parses
the expression. -/
namespace GraphLint.Expression

/-- The first structural problem of an expression's body. -/
inductive Problem where
  | empty
  | unexpectedClosing (c : Char)
  /-- A closing bracket met another bracket than its own: `expected` would match it. -/
  | mismatched (expected found : Char)
  | unclosedQuote (kind : QuoteKind)
  /-- The brackets left open, from left to right. -/
  | unclosedDelimiters (stack : Text)
  | invalidOperator (operator : Text)
  | trailingOperator
  | missingColon
  | unexpectedColon
  deriving DecidableEq, Repr

namespace Problem

/-- The wording of a problem. -/
def message : Problem → String
  | empty => "Empty CEL expression"
  | unexpectedClosing c => "Unexpected closing delimiter: " ++ String.singleton c
  | mismatched expected found =>
    "Mismatched delimiter: expected " ++ String.singleton expected ++ " but found " ++
      String.singleton found
  | unclosedQuote kind => "Unclosed " ++ kind.word ++ " quote"
  | unclosedDelimiters stack => "Unclosed delimiters: " ++ String.ofList stack
  | invalidOperator operator => "Invalid operator sequence: " ++ String.ofList operator
  | trailingOperator => "Expression ends with an operator"
  | missingColon => "Ternary expression missing colon"
  | unexpectedColon => "Unexpected colon in expression"

/-- The code of the rule that a problem breaks. -/
def rule : Problem → String
  | empty => "cel::empty"
  | unexpectedClosing _ | mismatched .. | unclosedQuote _ | unclosedDelimiters _ =>
    "cel::delimiters"
  | invalidOperator _ | trailingOperator => "cel::operators"
  | missingColon | unexpectedColon => "cel::ternary"

end Problem

/-- Whether a character opens a bracket. -/
def isOpener (c : Char) : Bool := c == '(' || c == '[' || c == '{'

/-- The bracket that a closing bracket closes. -/
def openerOf? (c : Char) : Option Char :=
  if c = ')' then some '(' else if c = ']' then some '[' else if c = '}' then some '{' else none

/-- The brackets open after a text, innermost first, when those of `stack` are open before it. -/
def openBrackets : (stack : Text) → Text → Except Problem Text
  | stack, [] => .ok stack
  | stack, c :: rest =>
    if isOpener c then openBrackets (c :: stack) rest
    else
      match openerOf? c with
      | none => openBrackets stack rest
      | some opener =>
        match stack with
        | [] => .error (.unexpectedClosing c)
        | top :: below =>
          if top = opener then openBrackets below rest else .error (.mismatched opener top)

/-- Brackets outside quotes are balanced, and no quote stays open. -/
def checkDelimiters (body : Text) : Except Problem Unit :=
  match openBrackets [] (unquoted body) with
  | .error problem => .error problem
  | .ok stack =>
    match openQuote body with
    | some kind => .error (.unclosedQuote kind)
    | none => if stack.isEmpty then .ok () else .error (.unclosedDelimiters stack.reverse)

/-- Sequences that no expression may contain, in the order in which they are looked for. -/
def invalidOperators : List Text :=
  [['+', '+'], ['-', '-'], ['*', '*'], ['/', '/'], ['/', '*'], ['*', '/'],
    ['&', '&', '&', '&'], ['|', '|', '|', '|']]

/-- The characters that no expression may end with, one final `=` apart. -/
def isTrailingOperator (c : Char) : Bool :=
  c == '+' || c == '-' || c == '*' || c == '/' || c == '&' || c == '|' || c == '^' || c == '%' ||
    c == '<' || c == '>'

/-- Whether a text ends with an operator, white space and one `=` left aside. -/
def endsWithOperator (body : Text) : Bool :=
  let trimmed := Text.trimEnd body
  let bare := (Text.before? ['='] trimmed).getD trimmed
  bare.getLast?.any isTrailingOperator

/-- No malformed operator occurs, in quotes or not, and none ends the body. -/
def checkOperators (body : Text) : Except Problem Unit :=
  match invalidOperators.find? (Text.occurs · body) with
  | some operator => .error (.invalidOperator operator)
  | none => if endsWithOperator body then .error .trailingOperator else .ok ()

/-- Outside quotes there are as many `?` as `:`. -/
def checkTernary (body : Text) : Except Problem Unit :=
  let outside := unquoted body
  let questions := outside.count '?'
  let colons := outside.count ':'
  if colons < questions then .error .missingColon
  else if questions < colons then .error .unexpectedColon
  else .ok ()

/-- All checks on one body, in their fixed order. -/
def check (body : Text) : Except Problem Unit :=
  if (Text.trim body).isEmpty then .error .empty
  else do
    checkDelimiters body
    checkOperators body
    checkTernary body

end GraphLint.Expression
