import GraphLint.Yaml.Mark
/-! # What is wrong with a stream

A fault is what keeps a text from being a stream of YAML documents: a problem, the place where
it shows, and perhaps what was being read and where that began. -/
namespace GraphLint.Yaml

/-- Everything that can be wrong with the form of a stream. -/
inductive Problem where
  | controlCharacter
  | noToken
  | blockEntryNotAllowed
  | keyNotAllowed
  | valueNotAllowed
  | simpleKeyWithoutColon
  | directiveNameMissing
  | directiveNameBroken
  | directiveUnknown
  | directiveTail
  | versionSeparator
  | versionTooLong
  | versionMissing
  | tagDirectiveSpace
  | tagDirectiveTail
  | tagMark
  | tagUriMissing
  | tagEscape
  | tagLeadingOctet
  | tagTrailingOctet
  | tagClose
  | tagTail
  | anchorName
  | blockIndentationZero
  | blockHeaderTail
  | blockTab
  | quotedIndicator
  | quotedEnd
  | unknownEscape
  | escapeDigits
  | escapeCharacter
  | plainColon
  | plainTab
  | documentStartMissing
  | duplicateVersion
  | incompatibleVersion
  | duplicateTagDirective
  | undefinedTagHandle
  | nodeContentMissing
  | blockEntryMissing
  | blockKeyMissing
  | flowSequenceSeparator
  | flowMappingSeparator
  deriving DecidableEq, Repr

namespace Problem

/-- The wording of a problem. -/
def text : Problem → String
  | controlCharacter => "control characters are not allowed"
  | noToken => "found character that cannot start any token"
  | blockEntryNotAllowed => "block sequence entries are not allowed in this context"
  | keyNotAllowed => "mapping keys are not allowed in this context"
  | valueNotAllowed => "mapping values are not allowed in this context"
  | simpleKeyWithoutColon => "could not find expected ':'"
  | directiveNameMissing => "could not find expected directive name"
  | directiveNameBroken => "found unexpected non-alphabetical character"
  | directiveUnknown => "found unknown directive name"
  | directiveTail => "did not find expected comment or line break"
  | versionSeparator => "did not find expected digit or '.' character"
  | versionTooLong => "found extremely long version number"
  | versionMissing => "did not find expected version number"
  | tagDirectiveSpace => "did not find expected whitespace"
  | tagDirectiveTail => "did not find expected whitespace or line break"
  | tagMark => "did not find expected '!'"
  | tagUriMissing => "did not find expected tag URI"
  | tagEscape => "did not find URI escaped octet"
  | tagLeadingOctet => "found an incorrect leading UTF-8 octet"
  | tagTrailingOctet => "found an incorrect trailing UTF-8 octet"
  | tagClose => "did not find the expected '>'"
  | tagTail => "did not find expected whitespace or line break"
  | anchorName => "did not find expected alphabetic or numeric character"
  | blockIndentationZero => "found an indentation indicator equal to 0"
  | blockHeaderTail => "did not find expected comment or line break"
  | blockTab => "found a tab character where an indentation space is expected"
  | quotedIndicator => "found unexpected document indicator"
  | quotedEnd => "found unexpected end of stream"
  | unknownEscape => "found unknown escape character"
  | escapeDigits => "did not find expected hexadecimal number"
  | escapeCharacter => "found invalid Unicode character escape code"
  | plainColon => "found unexpected ':'"
  | plainTab => "found a tab character that violates indentation"
  | documentStartMissing => "did not find expected <document start>"
  | duplicateVersion => "found duplicate %YAML directive"
  | incompatibleVersion => "found incompatible YAML document"
  | duplicateTagDirective => "found duplicate %TAG directive"
  | undefinedTagHandle => "found undefined tag handle"
  | nodeContentMissing => "did not find expected node content"
  | blockEntryMissing => "did not find expected '-' indicator"
  | blockKeyMissing => "did not find expected key"
  | flowSequenceSeparator => "did not find expected ',' or ']'"
  | flowMappingSeparator => "did not find expected ',' or '\x7d'"

end Problem

/-- What was being read when a problem showed. -/
inductive Activity where
  | nextToken
  | simpleKey
  | directive
  | versionDirective
  | tagDirective
  | tagDirectiveHandle
  | tagDirectiveHandleEnd
  | tagDirectivePrefix
  | tag
  | tagUri
  | anchor
  | reference
  | blockScalar
  | quotedScalar
  | quotedEscape
  | plainScalar
  | node
  | blockNode
  | flowNode
  | blockSequence
  | blockMapping
  | flowSequence
  | flowMapping
  deriving DecidableEq, Repr

namespace Activity

/-- The wording of an activity. -/
def text : Activity → String
  | nextToken => "while scanning for the next token"
  | simpleKey => "while scanning a simple key"
  | directive => "while scanning a directive"
  | versionDirective => "while scanning a %YAML directive"
  | tagDirective => "while scanning a %TAG directive"
  | tagDirectiveHandle => "while scanning a tag directive"
  | tagDirectiveHandleEnd => "while parsing a tag directive"
  | tagDirectivePrefix => "while parsing a %TAG directive"
  | tag => "while scanning a tag"
  | tagUri => "while parsing a tag"
  | anchor => "while scanning an anchor"
  | reference => "while scanning an alias"
  | blockScalar => "while scanning a block scalar"
  | quotedScalar => "while scanning a quoted scalar"
  | quotedEscape => "while parsing a quoted scalar"
  | plainScalar => "while scanning a plain scalar"
  | node => "while parsing a node"
  | blockNode => "while parsing a block node"
  | flowNode => "while parsing a flow node"
  | blockSequence => "while parsing a block collection"
  | blockMapping => "while parsing a block mapping"
  | flowSequence => "while parsing a flow sequence"
  | flowMapping => "while parsing a flow mapping"

end Activity

/-- A problem, the place where it shows, and what was being read. -/
structure Fault where
  problem : Problem
  mark : Mark
  /-- Where the offending octet stands, for a problem that no mark locates. -/
  offset : Nat
  context : Option (Activity × Mark)
  deriving DecidableEq, Repr

namespace Fault

/-- A problem at a mark. -/
def «at» (problem : Problem) (mark : Mark) : Fault := ⟨problem, mark, 0, none⟩

/-- A problem at a mark, met in an activity that began at `since`. -/
def within (activity : Activity) (since : Mark) (problem : Problem) (mark : Mark) : Fault :=
  ⟨problem, mark, 0, some (activity, since)⟩

/-- An octet that no stream may hold. -/
def atOffset (offset : Nat) : Fault := ⟨.controlCharacter, .origin, offset, none⟩

/-- The wording of a fault.  A place at the very start of the stream is not named, nor is the
start of the activity when it is the place of the problem. -/
def message (f : Fault) : String :=
  let place :=
    if f.mark.atTop then
      if f.offset = 0 then "" else " at position " ++ toString f.offset
    else f.mark.describe
  let context :=
    match f.context with
    | none => ""
    | some (activity, since) =>
      ", " ++ activity.text ++
        (if since.atTop || since.samePlace f.mark then "" else since.describe)
  f.problem.text ++ place ++ context

end Fault
end GraphLint.Yaml
