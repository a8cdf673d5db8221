import AssetLint.Unicode.Ranges
import AssetLint.Yaml.Cursor
import AssetLint.Yaml.Token

/-!
Anchors, aliases, tags and directives.
-/
namespace AssetLint.Yaml

def endsAnchor (cursor : Cursor) : Bool :=
  cursor.rest.head?.all fun c =>
    isSpacing c || c = '?' || c = ':' || c = ',' || c = ']' || c = '\x7d' || c = '%' || c = '@' ||
      c = '\x60'

/-- Reads a name after `&` or `*`. -/
def scanAnchor (construct : Construct) (cursor : Cursor) : Except Fault (String × Cursor) :=
  let (name, after) := (cursor.skip 1).takeWhile isNameChar
  if name.isEmpty || !endsAnchor after then
    .error (.within construct cursor.mark .badAnchorName after.mark)
  else .ok (String.ofList name, after)

def charBytes (c : Char) : TagText :=
  c.toString.toUTF8.toList

def textBytes (text : String) : TagText :=
  text.toUTF8.toList

/-- Characters of a tag that stand for themselves; the flow indicators among them only
where the tag is delimited otherwise. -/
def isUriChar (delimited : Bool) (c : Char) : Bool :=
  isNameChar c || ";/?:@&=+$.!~*'()".toList.contains c ||
    (delimited && (c = ',' || c = '[' || c = ']'))

def octetAt? (cursor : Cursor) : Option Nat :=
  match cursor.rest with
  | '%' :: high :: low :: _ => Unicode.hexNumber? [high, low]
  | _ => none

/-- Length of an encoded character that starts with this octet. -/
def encodedLength? (octet : Nat) : Option Nat :=
  if octet < 0x80 then some 1
  else if octet < 0xC0 then none
  else if octet < 0xE0 then some 2
  else if octet < 0xF0 then some 3
  else if octet < 0xF8 then some 4
  else none

/-- Reads further octets of an encoded character. -/
def readTrailing (construct : Construct) (start : Mark) :
    Nat → TagText → Cursor → Except Fault (TagText × Cursor)
  | 0, bytes, cursor => .ok (bytes, cursor)
  | count + 1, bytes, cursor =>
    match octetAt? cursor with
    | none => .error (.within construct start .badOctetEscape cursor.mark)
    | some octet =>
      if octet < 0x80 ∨ 0xC0 ≤ octet then
        .error (.within construct start .badTrailingOctet cursor.mark)
      else
        readTrailing construct start count (bytes ++ [octet.toUInt8]) (cursor.skip 3)

/-- Reads one character written as percent escapes. -/
def readOctets (construct : Construct) (start : Mark) (cursor : Cursor) :
    Except Fault (TagText × Cursor) :=
  match octetAt? cursor with
  | none => .error (.within construct start .badOctetEscape cursor.mark)
  | some octet =>
    match encodedLength? octet with
    | none => .error (.within construct start .badLeadingOctet cursor.mark)
    | some length =>
      readTrailing construct start (length - 1) [octet.toUInt8] (cursor.skip 3)

def readUri (construct : Construct) (start : Mark) (delimited : Bool) :
    Nat → TagText → Cursor → Except Fault (TagText × Cursor)
  | 0, bytes, cursor => .ok (bytes, cursor)
  | fuel + 1, bytes, cursor =>
    match cursor.rest with
    | [] => .ok (bytes, cursor)
    | c :: _ =>
      if c = '%' then do
        let (octets, after) ← readOctets construct start cursor
        readUri construct start delimited fuel (bytes ++ octets) after
      else if isUriChar delimited c then
        readUri construct start delimited fuel (bytes ++ charBytes c) (cursor.skip 1)
      else .ok (bytes, cursor)

/-- Reads the rest of a tag after `head`, whose exclamation mark is not part of the answer. A
null octet ends the text of the tag early. -/
def scanUri (construct : Construct) (start : Mark) (delimited : Bool) (head : String)
    (cursor : Cursor) : Except Fault (TagText × Cursor) := do
  let (bytes, after) ← readUri construct start delimited (cursor.rest.length + 1) [] cursor
  if head.isEmpty ∧ bytes.isEmpty then
    .error (.within construct start .missingUri after.mark)
  else
    let tag := textBytes (String.ofList (head.toList.drop 1)) ++ bytes
    return (tag.takeWhile (· ≠ 0), after)

/-- Reads `!`, `!name` or `!name!`. A directive must close a name. -/
def scanHandle (inDirective : Bool) (start : Mark) (cursor : Cursor) :
    Except Fault (String × Cursor) :=
  if !cursor.sees '!' then
    let construct := if inDirective then .directiveHandle else .tag
    .error (.within construct start .expectedBang cursor.mark)
  else
    let (name, after) := (cursor.skip 1).takeWhile isNameChar
    if after.sees '!' then .ok (String.ofList ('!' :: name ++ ['!']), after.skip 1)
    else if inDirective ∧ !name.isEmpty then
      .error (.within .directiveHandleEnd start .expectedBang after.mark)
    else .ok (String.ofList ('!' :: name), after)

/-- A tag as a handle and the rest. The handle is empty where the rest is the whole tag. -/
def readTag (cursor : Cursor) : Except Fault ((String × TagText) × Cursor) := do
  let start := cursor.mark
  if cursor.peek? 1 = some '<' then
    let (bytes, after) ← scanUri .tagUri start true "" (cursor.skip 2)
    if after.sees '>' then return (("", bytes), after.skip 1)
    else .error (.within .tag start .unclosedVerbatim after.mark)
  else
    let (handle, after) ← scanHandle false start cursor
    if 2 ≤ handle.length ∧ handle.toList.getLast? = some '!' then
      let (bytes, after) ← scanUri .tagUri start false "" after
      return ((handle, bytes), after)
    else
      let (bytes, after) ← scanUri .tagUri start false handle after
      if bytes.isEmpty then return (("", textBytes "!"), after)
      else return (("!", bytes), after)

def scanTag (inFlow : Bool) (cursor : Cursor) : Except Fault ((String × TagText) × Cursor) := do
  let (tag, after) ← readTag cursor
  if (inFlow && after.sees ',') || after.endsWord 0 then return (tag, after)
  else .error (.within .tag cursor.mark .expectedBlankOrBreak after.mark)

def scanVersionNumber (start : Mark) (cursor : Cursor) : Except Fault (Nat × Cursor) :=
  let (digits, after) := cursor.takeWhile Char.isDigit
  if 9 < digits.length then
    .error (.within .versionDirective start .longVersion (cursor.skip 9).mark)
  else if digits.isEmpty then
    .error (.within .versionDirective start .missingVersion cursor.mark)
  else .ok (digits.foldl (fun n c => 10 * n + (c.toNat - 48)) 0, after)

def scanVersion (start : Mark) (cursor : Cursor) : Except Fault (Lexeme × Cursor) := do
  let (major, after) ← scanVersionNumber start (cursor.skipWhile isSpaceOrTab)
  if !after.sees '.' then
    .error (.within .versionDirective start .expectedVersionDot after.mark)
  else
    let (minor, after) ← scanVersionNumber start (after.skip 1)
    return (.versionDirective major minor, after)

def scanHandleDirective (start : Mark) (cursor : Cursor) : Except Fault (Lexeme × Cursor) := do
  let (handle, after) ← scanHandle true start (cursor.skipWhile isSpaceOrTab)
  if !after.rest.head?.any isSpaceOrTab then
    .error (.within .handleDirective start .expectedBlank after.mark)
  else
    let (bytes, after) ←
      scanUri .handleDirectiveUri start true "" (after.skipWhile isSpaceOrTab)
    if after.endsWord 0 then return (.tagDirective handle bytes, after)
    else .error (.within .handleDirective start .expectedBlankOrBreak after.mark)

/-- Reads a directive line, with the cursor at its `%`. -/
def scanDirective (cursor : Cursor) : Except Fault (Lexeme × Cursor) := do
  let start := cursor.mark
  let (name, after) := (cursor.skip 1).takeWhile isNameChar
  if name.isEmpty then
    .error (.within .directive start .missingDirectiveName after.mark)
  else if !after.endsWord 0 then
    .error (.within .directive start .badDirectiveName after.mark)
  else
    let (lexeme, after) ←
      if name = "YAML".toList then scanVersion start after
      else if name = "TAG".toList then scanHandleDirective start after
      else .error (.within .directive start .unknownDirective after.mark)
    let after := after.skipToLineEnd
    if after.endsLine then return (lexeme, after.skipBreak)
    else .error (.within .directive start .expectedLineEnd after.mark)

end AssetLint.Yaml
