import AssetLint.Text.Lines

/-!
Defects of file-name patterns, and the message that shows the pattern with the offending
characters marked below their line.
-/
namespace AssetLint.Pattern

/-- Offsets in characters, the second one past the end. -/
structure Span where
  start : Nat
  stop : Nat
  deriving DecidableEq, Repr

def nestLimit : Nat := 250

inductive Defect where
  | classEscape
  | classRange
  | classBoundary
  | classUnclosed
  | decimalInvalid
  | hexEmpty
  | hexInvalid
  | hexDigit
  | escapeUnfinished
  | escapeUnknown
  | flagDangling
  | flagRepeated
  | flagNegatedTwice
  | flagUnfinished
  | flagUnknown
  | nameRepeated
  | nameEmpty
  | nameInvalid
  | nameUnclosed
  | groupUnclosed
  | groupUnopened
  | tooDeep
  | countOrder
  | countEmpty
  | countUnclosed
  | nothingToRepeat
  | boundaryUnclosed
  | boundaryUnknown
  | boundaryUnfinished
  | propertyUnreadable
  | backreference
  | lookAround
  | unicodeNotAllowed
  | invalidText
  | propertyUnknown
  | propertyValueUnknown
  deriving DecidableEq, Repr

def Defect.text : Defect → String
  | classEscape => "invalid escape sequence found in character class"
  | classRange => "invalid character class range, the start must be <= the end"
  | classBoundary => "invalid range boundary, must be a literal"
  | classUnclosed => "unclosed character class"
  | decimalInvalid => "decimal literal invalid"
  | hexEmpty => "hexadecimal literal empty"
  | hexInvalid => "hexadecimal literal is not a Unicode scalar value"
  | hexDigit => "invalid hexadecimal digit"
  | escapeUnfinished => "incomplete escape sequence, reached end of pattern prematurely"
  | escapeUnknown => "unrecognized escape sequence"
  | flagDangling => "dangling flag negation operator"
  | flagRepeated => "duplicate flag"
  | flagNegatedTwice => "flag negation operator repeated"
  | flagUnfinished => "expected flag but got end of regex"
  | flagUnknown => "unrecognized flag"
  | nameRepeated => "duplicate capture group name"
  | nameEmpty => "empty capture group name"
  | nameInvalid => "invalid capture group character"
  | nameUnclosed => "unclosed capture group name"
  | groupUnclosed => "unclosed group"
  | groupUnopened => "unopened group"
  | tooDeep =>
    "exceed the maximum number of nested parentheses/brackets (" ++ toString nestLimit ++ ")"
  | countOrder => "invalid repetition count range, the start must be <= the end"
  | countEmpty => "repetition quantifier expects a valid decimal"
  | countUnclosed => "unclosed counted repetition"
  | nothingToRepeat => "repetition operator missing expression"
  | boundaryUnclosed =>
    "special word boundary assertion is either unclosed or contains an invalid character"
  | boundaryUnknown =>
    "unrecognized special word boundary assertion, valid choices are: start, end, start-half or " ++
      "end-half"
  | boundaryUnfinished =>
    "found either the beginning of a special word boundary or a bounded repetition on a \\b " ++
      "with an opening brace, but no closing brace"
  | propertyUnreadable => "invalid Unicode character class"
  | backreference => "backreferences are not supported"
  | lookAround => "look-around, including look-ahead and look-behind, is not supported"
  | unicodeNotAllowed => "Unicode not allowed here"
  | invalidText => "pattern can match invalid UTF-8"
  | propertyUnknown => "Unicode property not found"
  | propertyValueUnknown => "Unicode property value not found"

structure Fault where
  defect : Defect
  span : Span
  /-- The first of two that may not both be there. -/
  earlier : Option Span := none
  deriving DecidableEq, Repr

/-- Line and column of an offset, counted from zero. -/
def lineColumn (pattern : List Char) (offset : Nat) : Nat × Nat :=
  let before := pattern.take offset
  (before.count '\n', (before.reverse.takeWhile (· ≠ '\n')).length)

/-- A span on one line, by its columns. -/
structure Mark where
  line : Nat
  column : Nat
  length : Nat

def spaces (n : Nat) : List Char :=
  List.replicate n ' '

/-- Carets below the marked columns of one line; every mark has at least one. -/
def carets (marks : List Mark) : List Char :=
  marks.foldl
    (fun drawn mark =>
      drawn ++ spaces (mark.column - drawn.length) ++ List.replicate (max 1 mark.length) '^') []

/-- Lines as they are shown: without line ends, and without an empty line after the last. -/
def shownLines (pattern : List Char) : List (List Char) :=
  match (Text.splitOn '\n' pattern).reverse with
  | [] => []
  | last :: ended =>
    let ended := ended.map fun line =>
      if line.getLast? = some '\r' then line.dropLast else line
    ended.reverse ++ if last.isEmpty then [] else [last]

def Fault.message (fault : Fault) (pattern : List Char) : String :=
  let place (span : Span) := (lineColumn pattern span.start, lineColumn pattern span.stop)
  let spans := (fault.earlier.toList ++ [fault.span]).mergeSort fun a b => a.start ≤ b.start
  let marks := spans.filterMap fun span =>
    let (first, last) := place span
    if first.1 = last.1 then some (Mark.mk first.1 first.2 (last.2 - first.2)) else none
  let notes := spans.filterMap fun span =>
    let (first, last) := place span
    if first.1 = last.1 then none
    else
      some ("on line " ++ toString (first.1 + 1) ++ " (column " ++ toString (first.2 + 1) ++
        ") through line " ++ toString (last.1 + 1) ++ " (column " ++ toString last.2 ++ ")")
  let several := pattern.contains '\n'
  let width := (toString (pattern.count '\n' + 1)).length
  let label (n : Nat) : List Char :=
    if several then
      let digits := (toString (n + 1)).toList
      spaces (width - digits.length) ++ digits ++ [':', ' ']
    else spaces 4
  let indent := if several then width + 2 else 4
  let drawn := (shownLines pattern).mapIdx fun n line =>
    let here := marks.filter fun mark => mark.line = n
    label n ++ line ++ ['\n'] ++
      if here.isEmpty then [] else spaces indent ++ carets here ++ ['\n']
  let divider := if several then List.replicate 79 '~' ++ ['\n'] else []
  let listed := if notes.isEmpty then "" else String.intercalate "\n" notes ++ "\n"
  "regex parse error:\n" ++
    String.ofList (divider ++ drawn.flatten ++ divider) ++ listed ++ "error: " ++ fault.defect.text

end AssetLint.Pattern
