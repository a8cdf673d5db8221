import AssetLint.Pattern.Expression
import AssetLint.Pattern.Reader.Group
import AssetLint.Unicode.PropertyName

/-!
The expression that a written pattern stands for under its flags. Without Unicode, classes are
of ASCII characters and must not be negated, since they would match parts of characters.
-/
namespace AssetLint.Pattern

open Unicode (Ranges)

structure Mode where
  caseInsensitive : Bool := false
  multiLine : Bool := false
  dotMatchesNewline : Bool := false
  swapGreed : Bool := false
  unicode : Bool := true
  crlf : Bool := false

def Mode.apply (mode : Mode) (changes : FlagChanges) : Mode :=
  { caseInsensitive := (changes.value? .caseInsensitive).getD mode.caseInsensitive
    multiLine := (changes.value? .multiLine).getD mode.multiLine
    dotMatchesNewline := (changes.value? .dotMatchesNewline).getD mode.dotMatchesNewline
    swapGreed := (changes.value? .swapGreed).getD mode.swapGreed
    unicode := (changes.value? .unicode).getD mode.unicode
    crlf := (changes.value? .crlf).getD mode.crlf }

def asciiLetterFold (ranges : Ranges) : Ranges :=
  let letters := (List.range 26).filterMap fun n =>
    let upper := 65 + n
    let lower := 97 + n
    if ranges.holds upper || ranges.holds lower then some [(upper, upper), (lower, lower)] else none
  Ranges.normalized (ranges ++ letters.flatten)

/-- The set with everything that its members fold to, where case does not count. Ranges in
order stay so. -/
def Mode.folded (mode : Mode) (ranges : Ranges) : Ranges :=
  if !mode.caseInsensitive then ranges
  else if mode.unicode then Unicode.caseFold ranges
  else asciiLetterFold ranges

def Mode.foldedAndNegated (mode : Mode) (span : Span) (negated : Bool) (ranges : Ranges) :
    Except Fault Ranges :=
  let ranges := mode.folded (Ranges.normalized ranges)
  if !negated then .ok ranges
  else if mode.unicode then .ok ranges.complement
  else .error ⟨.invalidText, span, none⟩

def asciiDigits : Ranges := [(48, 57)]
def asciiBlanks : Ranges := [(9, 13), (32, 32)]
def asciiWord : Ranges := [(48, 57), (65, 90), (95, 95), (97, 122)]

def Mode.word (mode : Mode) : Ranges :=
  if mode.unicode then Unicode.wordRanges else asciiWord

def Mode.shortClass (mode : Mode) (span : Span) (negated : Bool) (kind : ShortClass) :
    Except Fault Ranges :=
  let ranges :=
    match kind with
    | .digit => if mode.unicode then Unicode.digitRanges else asciiDigits
    | .blank => if mode.unicode then Unicode.blankRanges else asciiBlanks
    | .word => mode.word
  if !negated then .ok ranges
  else if mode.unicode then .ok ranges.complement
  else .error ⟨.invalidText, span, none⟩

def propertyRanges (span : Span) (name : PropertyName) : Except Fault Ranges :=
  let loose (written : List Char) := String.ofList (Unicode.looseName written)
  let found :=
    match name with
    | .alone name => Unicode.propertyAlone (loose name)
    | .valued name value => Unicode.propertyValue (loose name) (loose value)
  match found with
  | .found members => .ok members
  | .unknownProperty => .error ⟨.propertyUnknown, span, none⟩
  | .unknownValue => .error ⟨.propertyValueUnknown, span, none⟩

def Mode.property (mode : Mode) (span : Span) (negated : Bool) (name : PropertyName) :
    Except Fault Ranges :=
  if !mode.unicode then .error ⟨.unicodeNotAllowed, span, none⟩
  else do mode.foldedAndNegated span negated (← propertyRanges span name)

/-- Without Unicode, a byte outside ASCII is no text, and a character outside of it no member
of a class. -/
def Mode.classChar (mode : Mode) (written : Literal) : Except Fault Nat :=
  if mode.unicode || written.char.toNat < 0x80 then .ok written.char.toNat
  else
    .error ⟨if written.byte then .invalidText else .unicodeNotAllowed, written.span, none⟩

mutual

def ClassItem.ranges (mode : Mode) : ClassItem → Except Fault Ranges
  | .empty _ => .ok []
  | .literal written => do
    let n ← mode.classChar written
    return [(n, n)]
  | .range _ first last => return [(← mode.classChar first, ← mode.classChar last)]
  | .named span negated members => mode.foldedAndNegated span negated members
  | .property span negated name => mode.property span negated name
  | .short span negated kind => mode.shortClass span negated kind
  | .bracketed span negated set => do
    mode.foldedAndNegated span negated (← ClassSet.ranges mode set)
  | .union _ items => return Ranges.normalized (← ClassItem.allRanges mode items)

def ClassItem.allRanges (mode : Mode) : List ClassItem → Except Fault Ranges
  | [] => .ok []
  | item :: items => return (← ClassItem.ranges mode item) ++ (← ClassItem.allRanges mode items)

def ClassSet.ranges (mode : Mode) : ClassSet → Except Fault Ranges
  | .item single => ClassItem.ranges mode single
  | .binary _ operator left right => do
    let left := mode.folded (← ClassSet.ranges mode left)
    let right := mode.folded (← ClassSet.ranges mode right)
    return match operator with
      | .intersection => left.intersection right
      | .difference => left.difference right
      | .symmetricDifference =>
        Ranges.difference (left.union right) (left.intersection right)

end

def Mode.look (mode : Mode) (kind : Assertion) : Look :=
  match kind with
  | .lineStart =>
    if !mode.multiLine then .textStart else if mode.crlf then .anyLineStart else .lineStart
  | .lineEnd =>
    if !mode.multiLine then .textEnd else if mode.crlf then .anyLineEnd else .lineEnd
  | .textStart => .textStart
  | .textEnd => .textEnd
  | .boundary => .boundary mode.word
  | .notBoundary => .notBoundary mode.word
  | .wordStart => .wordStart mode.word
  | .wordEnd => .wordEnd mode.word
  | .wordStartHalf => .wordStartHalf mode.word
  | .wordEndHalf => .wordEndHalf mode.word

/-- Any character but a line feed, and in some modes but a carriage return, or really any. -/
def Mode.dot (mode : Mode) : Ranges :=
  if mode.dotMatchesNewline then [(0, 0x10FFFF)]
  else if mode.crlf then [(0, 9), (11, 12), (14, 0x10FFFF)]
  else [(0, 9), (11, 0x10FFFF)]

mutual

/-- The expression of a part, and the mode after it. -/
def Tree.expression (mode : Mode) : Tree → Except Fault (Expression × Mode)
  | .empty _ => .ok (.empty, mode)
  | .flags _ changes => .ok (.empty, mode.apply changes)
  | .literal written =>
    let n := written.char.toNat
    if !mode.unicode && written.byte && 0x80 ≤ n then
      .error ⟨.invalidText, written.span, none⟩
    else .ok (.ofSet (mode.folded [(n, n)]), mode)
  | .dot span =>
    if mode.unicode then .ok (.ofSet mode.dot, mode) else .error ⟨.invalidText, span, none⟩
  | .assertion _ kind => .ok (.look (mode.look kind), mode)
  | .property span negated name => return (.ofSet (← mode.property span negated name), mode)
  | .short span negated kind => return (.ofSet (← mode.shortClass span negated kind), mode)
  | .bracketed span negated set => do
    let members ← set.ranges mode
    return (.ofSet (← mode.foldedAndNegated span negated members), mode)
  | .repetition _ inner least most greedy => do
    let (inner, after) ← Tree.expression mode inner
    return (.repeated inner least most (greedy != after.swapGreed), after)
  | .group _ captures changes inner => do
    let (inner, _) ← Tree.expression (mode.apply changes) inner
    return (if captures then .capture inner else inner, mode)
  | .alternation _ branches => do
    let (parts, after) ← Tree.expressions mode branches
    return (.oneOf parts, after)
  | .sequence _ items => do
    let (parts, after) ← Tree.expressions mode items
    return (.inSequence parts, after)

/-- The expressions of parts in a row, each of which starts in the mode after the last one. -/
def Tree.expressions (mode : Mode) : List Tree → Except Fault (List Expression × Mode)
  | [] => .ok ([], mode)
  | tree :: trees => do
    let (first, after) ← Tree.expression mode tree
    let (others, after) ← Tree.expressions after trees
    return (first :: others, after)

end

end AssetLint.Pattern
