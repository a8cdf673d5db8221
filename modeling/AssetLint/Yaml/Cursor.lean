import AssetLint.Yaml.Fault

/-!
Reading position in a document. Characters that a document may not hold are found a block of
bytes at a time: a bad character hides its whole block, and is reported when reading reaches
that block.
-/
namespace AssetLint.Yaml

def blockSize : Nat := 16384

/-- Tab, line ends, printable ASCII, and everything above the C1 controls but the two last
code points of the basic plane. -/
def isAllowed (c : Char) : Bool :=
  let n := c.toNat
  n = 0x09 || n = 0x0A || n = 0x0D || (0x20 ≤ n && n ≤ 0x7E) || n = 0x85 ||
    (0xA0 ≤ n && n ≤ 0xFFFD) || 0x10000 ≤ n

def isSpaceOrTab (c : Char) : Bool :=
  c = ' ' || c = '\t'

def isBreak (c : Char) : Bool :=
  c = '\n' || c = '\r' || c = '\x85' || c = '\u2028' || c = '\u2029'

def isSpacing (c : Char) : Bool :=
  isSpaceOrTab c || isBreak c

/-- Letters, digits, `-` and `_` of ASCII. -/
def isNameChar (c : Char) : Bool :=
  c.isAlphanum || c = '-' || c = '_'

structure Cursor where
  rest : List Char
  mark : Mark
  /-- Byte offset of a bad character in the block after `rest`. -/
  bad : Option Nat

namespace Cursor

/-- Byte offset of the first character that a document may not hold. -/
def firstBad? : Nat → List Char → Option Nat
  | _, [] => none
  | offset, c :: rest =>
    if isAllowed c then firstBad? (offset + c.utf8Size) rest else some offset

/-- The characters of the blocks that end at or before a byte offset. `room` is what is left
of the current block, whose characters so far are `block`, last first. -/
def blocksBefore (bad : Nat) (offset room : Nat) (block : List Char) : List Char → List Char
  | [] => []
  | c :: rest =>
    if room < c.utf8Size then
      block.reverse ++
        if bad = offset then []
        else blocksBefore bad (offset + c.utf8Size) (blockSize - c.utf8Size) [c] rest
    else if bad = offset then []
    else blocksBefore bad (offset + c.utf8Size) (room - c.utf8Size) (c :: block) rest

def ofText (text : List Char) : Cursor :=
  match firstBad? 0 text with
  | none => ⟨text, Mark.start, none⟩
  | some offset => ⟨blocksBefore offset 0 blockSize [] text, Mark.start, some offset⟩

def peek? (cursor : Cursor) (ahead : Nat) : Option Char :=
  cursor.rest[ahead]?

def sees (cursor : Cursor) (c : Char) : Bool :=
  cursor.rest.head? = some c

/-- The character ahead is a blank, a line break or the end. -/
def endsWord (cursor : Cursor) (ahead : Nat) : Bool :=
  (cursor.peek? ahead).all isSpacing

/-- The line ends here. -/
def endsLine (cursor : Cursor) : Bool :=
  cursor.rest.head?.all isBreak

/-- Moves over characters that are no line breaks. -/
def skip (cursor : Cursor) (count : Nat) : Cursor :=
  { cursor with
    rest := cursor.rest.drop count
    mark := cursor.mark.advance (cursor.rest.take count) }

def takeWhile (cursor : Cursor) (keep : Char → Bool) : List Char × Cursor :=
  let taken := cursor.rest.takeWhile keep
  (taken, cursor.skip taken.length)

def skipWhile (cursor : Cursor) (keep : Char → Bool) : Cursor :=
  (cursor.takeWhile keep).2

/-- Reads one line break. Both characters of a carriage return with line feed count as one
line feed, as do the other breaks but the two Unicode separators. -/
def lineBreak? (cursor : Cursor) : Option (Char × Cursor) :=
  match cursor.rest with
  | '\r' :: '\n' :: rest => some ('\n', { cursor with rest, mark := cursor.mark.nextLine 2 })
  | c :: rest =>
    if isBreak c then
      some (if c = '\u2028' ∨ c = '\u2029' then c else '\n',
        { cursor with rest, mark := cursor.mark.nextLine c.utf8Size })
    else none
  | [] => none

def skipBreak (cursor : Cursor) : Cursor :=
  match cursor.lineBreak? with
  | some (_, after) => after
  | none => cursor

/-- Blanks, then a comment if one follows. -/
def skipToLineEnd (cursor : Cursor) : Cursor :=
  let cursor := cursor.skipWhile isSpaceOrTab
  if cursor.sees '#' then cursor.skipWhile (fun c => !isBreak c) else cursor

/-- A line that starts with three of these characters and then ends or has a blank. -/
def seesMarker (cursor : Cursor) (c : Char) : Bool :=
  cursor.mark.column = 0 && cursor.rest.take 3 = [c, c, c] && cursor.endsWord 3

def seesDocumentMarker (cursor : Cursor) : Bool :=
  cursor.seesMarker '-' || cursor.seesMarker '.'

/-- Reading past the end meets the hidden block if there is one. -/
def badAhead? (cursor : Cursor) : Option Fault :=
  if cursor.rest.isEmpty then cursor.bad.map Fault.controlCharacter else none

/-- Prefers the hidden block to what a reader made of the end before it. -/
def settle {α : Type} (start : Cursor) (result : Except Fault (α × Cursor)) :
    Except Fault (α × Cursor) :=
  match start.bad, result with
  | some offset, .error (.syntactic problem place context) =>
    if start.mark.index + Text.byteLength start.rest ≤ place.index then
      .error (.controlCharacter offset)
    else .error (.syntactic problem place context)
  | some offset, .ok (value, after) =>
    if after.rest.isEmpty then .error (.controlCharacter offset) else .ok (value, after)
  | _, _ => result

end Cursor
end AssetLint.Yaml
