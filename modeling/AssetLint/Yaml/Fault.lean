import AssetLint.Text.Lines

/-!
Places in a text and syntax faults. A fault says what was wrong and where, and in which
construct. A place at the very start of the text is never spelled out.
-/
namespace AssetLint.Yaml

/-- Bytes read, line and column, all counted from zero. Columns are counted in characters. -/
structure Mark where
  index : Nat
  line : Nat
  column : Nat
  deriving DecidableEq, Repr

namespace Mark

def start : Mark := ⟨0, 0, 0⟩

/-- The mark after characters of the same line. -/
def advance (mark : Mark) (read : List Char) : Mark :=
  ⟨mark.index + Text.byteLength read, mark.line, mark.column + read.length⟩

/-- The mark after a line break of so many bytes. -/
def nextLine (mark : Mark) (bytes : Nat) : Mark :=
  ⟨mark.index + bytes, mark.line + 1, 0⟩

def isStart (mark : Mark) : Bool :=
  mark.line = 0 && mark.column = 0

/-- Text such as ` at line 2 column 1`, or nothing at the start. -/
def suffix (mark : Mark) : String :=
  if mark.isStart then ""
  else " at line " ++ toString (mark.line + 1) ++ " column " ++ toString (mark.column + 1)

end Mark

inductive Problem where
  | missingColon
  | entryNotAllowed
  | keyNotAllowed
  | valueNotAllowed
  | noTokenStart
  | missingDirectiveName
  | badDirectiveName
  | unknownDirective
  | expectedLineEnd
  | longVersion
  | missingVersion
  | expectedVersionDot
  | expectedBlank
  | expectedBlankOrBreak
  | expectedBang
  | missingUri
  | badOctetEscape
  | badLeadingOctet
  | badTrailingOctet
  | unclosedVerbatim
  | badAnchorName
  | zeroIndentation
  | tabForIndentation
  | tabBelowIndentation
  | markerInQuotes
  | endInQuotes
  | unknownEscape
  | expectedHex
  | badEscapedScalar
  | unexpectedColon
  | expectedDocumentStart
  | undefinedHandle
  | missingContent
  | expectedDash
  | expectedKey
  | expectedCommaOrBracket
  | expectedCommaOrBrace
  | repeatedVersion
  | foreignVersion
  | repeatedHandle
  deriving DecidableEq, Repr

def Problem.text : Problem → String
  | missingColon => "could not find expected ':'"
  | entryNotAllowed => "block sequence entries are not allowed in this context"
  | keyNotAllowed => "mapping keys are not allowed in this context"
  | valueNotAllowed => "mapping values are not allowed in this context"
  | noTokenStart => "found character that cannot start any token"
  | missingDirectiveName => "could not find expected directive name"
  | badDirectiveName => "found unexpected non-alphabetical character"
  | unknownDirective => "found unknown directive name"
  | expectedLineEnd => "did not find expected comment or line break"
  | longVersion => "found extremely long version number"
  | missingVersion => "did not find expected version number"
  | expectedVersionDot => "did not find expected digit or '.' character"
  | expectedBlank => "did not find expected whitespace"
  | expectedBlankOrBreak => "did not find expected whitespace or line break"
  | expectedBang => "did not find expected '!'"
  | missingUri => "did not find expected tag URI"
  | badOctetEscape => "did not find URI escaped octet"
  | badLeadingOctet => "found an incorrect leading UTF-8 octet"
  | badTrailingOctet => "found an incorrect trailing UTF-8 octet"
  | unclosedVerbatim => "did not find the expected '>'"
  | badAnchorName => "did not find expected alphabetic or numeric character"
  | zeroIndentation => "found an indentation indicator equal to 0"
  | tabForIndentation => "found a tab character where an indentation space is expected"
  | tabBelowIndentation => "found a tab character that violates indentation"
  | markerInQuotes => "found unexpected document indicator"
  | endInQuotes => "found unexpected end of stream"
  | unknownEscape => "found unknown escape character"
  | expectedHex => "did not find expected hexadecimal number"
  | badEscapedScalar => "found invalid Unicode character escape code"
  | unexpectedColon => "found unexpected ':'"
  | expectedDocumentStart => "did not find expected <document start>"
  | undefinedHandle => "found undefined tag handle"
  | missingContent => "did not find expected node content"
  | expectedDash => "did not find expected '-' indicator"
  | expectedKey => "did not find expected key"
  | expectedCommaOrBracket => "did not find expected ',' or ']'"
  | expectedCommaOrBrace => "did not find expected ',' or '\x7d'"
  | repeatedVersion => "found duplicate %YAML directive"
  | foreignVersion => "found incompatible YAML document"
  | repeatedHandle => "found duplicate %TAG directive"

inductive Construct where
  | simpleKey
  | nextToken
  | directive
  | versionDirective
  | handleDirective
  | handleDirectiveUri
  | directiveHandle
  | directiveHandleEnd
  | tag
  | tagUri
  | anchorName
  | aliasName
  | blockScalar
  | quotedScalar
  | quotedEscape
  | plainScalar
  | node
  | blockNode
  | flowNode
  | blockSequence
  | blockMapping
  | flowSequence
  | flowMapping
  deriving DecidableEq, Repr

def Construct.text : Construct → String
  | simpleKey => "while scanning a simple key"
  | nextToken => "while scanning for the next token"
  | directive => "while scanning a directive"
  | versionDirective => "while scanning a %YAML directive"
  | handleDirective => "while scanning a %TAG directive"
  | handleDirectiveUri => "while parsing a %TAG directive"
  | directiveHandle => "while scanning a tag directive"
  | directiveHandleEnd => "while parsing a tag directive"
  | tag => "while scanning a tag"
  | tagUri => "while parsing a tag"
  | anchorName => "while scanning an anchor"
  | aliasName => "while scanning an alias"
  | blockScalar => "while scanning a block scalar"
  | quotedScalar => "while scanning a quoted scalar"
  | quotedEscape => "while parsing a quoted scalar"
  | plainScalar => "while scanning a plain scalar"
  | node => "while parsing a node"
  | blockNode => "while parsing a block node"
  | flowNode => "while parsing a flow node"
  | blockSequence => "while parsing a block collection"
  | blockMapping => "while parsing a block mapping"
  | flowSequence => "while parsing a flow sequence"
  | flowMapping => "while parsing a flow mapping"

inductive Fault where
  /-- A character outside the ones a document may hold, at a byte offset. -/
  | controlCharacter (offset : Nat)
  | syntactic (problem : Problem) (place : Mark) (context : Option (Construct × Mark))
  deriving DecidableEq, Repr

namespace Fault

/-- The construct's own place is left out where it equals the place of the problem. -/
def message : Fault → String
  | controlCharacter offset =>
    "control characters are not allowed" ++
      if offset = 0 then "" else " at position " ++ toString offset
  | syntactic problem place context =>
    problem.text ++ place.suffix ++
      match context with
      | none => ""
      | some (construct, start) =>
        ", " ++ construct.text ++
          if start.line = place.line ∧ start.column = place.column then "" else start.suffix

def alone (problem : Problem) (place : Mark) : Fault :=
  syntactic problem place none

def within (construct : Construct) (start : Mark) (problem : Problem) (place : Mark) : Fault :=
  syntactic problem place (some (construct, start))

end Fault
end AssetLint.Yaml
