import AssetLint.Yaml.Token.Property
import AssetLint.Yaml.Token.Scalar

/-!
The queue of tokens ahead of the grammar. A node may turn out to be a mapping key only when
the colon after it is read, so the key token, and the start of its mapping, are inserted before
tokens already in the queue. The head of the queue is handed out once no such key can still
come before it.
-/
namespace AssetLint.Yaml

/-- A node that may be a key if a colon follows on its line within 1024 bytes. -/
structure SimpleKey where
  /-- The node stands where the block mapping needs a key. -/
  required : Bool
  tokenNumber : Nat
  mark : Mark

structure TokenQueue where
  cursor : Cursor
  waiting : List Token := []
  /-- Count of the tokens handed out. -/
  handedOut : Nat := 0
  indent : Int := -1
  outerIndents : List Int := []
  keyAllowed : Bool := true
  /-- The possible key of each flow level, innermost first; the last is that of the block. -/
  keys : List (Option SimpleKey) := [none]

namespace TokenQueue

def ofText (text : List Char) : TokenQueue :=
  { cursor := Cursor.ofText text }

def inFlow (queue : TokenQueue) : Bool :=
  1 < queue.keys.length

def mark (queue : TokenQueue) : Mark :=
  queue.cursor.mark

def push (queue : TokenQueue) (lexeme : Lexeme) (start stop : Mark) : TokenQueue :=
  { queue with waiting := queue.waiting ++ [⟨lexeme, start, stop⟩] }

/-- Puts a token before the one with this number. -/
def insertAt (queue : TokenQueue) (number : Nat) (lexeme : Lexeme) (mark : Mark) : TokenQueue :=
  let ahead := number - queue.handedOut
  { queue with
    waiting := queue.waiting.take ahead ++ ⟨lexeme, mark, mark⟩ :: queue.waiting.drop ahead }

/-- Reads an indicator of the given length. -/
def pushIndicator (queue : TokenQueue) (lexeme : Lexeme) (length : Nat) : TokenQueue :=
  let after := queue.cursor.skip length
  { queue.push lexeme queue.mark after.mark with cursor := after }

def missingColon (key : SimpleKey) (place : Mark) : Fault :=
  .within .simpleKey key.mark .missingColon place

/-- Forgets the keys that the line or the distance rules out. -/
def dropStaleKeys (queue : TokenQueue) : Except Fault TokenQueue := do
  let keys ← queue.keys.reverse.mapM fun possible =>
    match possible with
    | none => .ok none
    | some key =>
      if key.mark.line < queue.mark.line ∨ key.mark.index + 1024 < queue.mark.index then
        if key.required then .error (missingColon key queue.mark) else .ok none
      else .ok (some key)
  return { queue with keys := keys.reverse }

/-- Forgets the possible key of the innermost level. -/
def dropKey (queue : TokenQueue) : Except Fault TokenQueue :=
  match queue.keys with
  | some key :: outer =>
    if key.required then .error (missingColon key queue.mark)
    else .ok { queue with keys := none :: outer }
  | _ => .ok queue

/-- Notes that the next token may start a key. -/
def noteKey (queue : TokenQueue) : Except Fault TokenQueue :=
  if queue.keyAllowed then do
    let required := !queue.inFlow && queue.indent = (queue.mark.column : Int)
    let key : SimpleKey := ⟨required, queue.handedOut + queue.waiting.length, queue.mark⟩
    let queue ← queue.dropKey
    return { queue with keys := some key :: queue.keys.drop 1 }
  else .ok queue

/-- Opens a block collection at a column that is further in. -/
def indentTo (queue : TokenQueue) (column : Nat) (number : Option Nat) (lexeme : Lexeme)
    (mark : Mark) : TokenQueue :=
  if !queue.inFlow ∧ queue.indent < (column : Int) then
    let queue :=
      { queue with indent := column, outerIndents := queue.indent :: queue.outerIndents }
    match number with
    | none => queue.push lexeme mark mark
    | some number => queue.insertAt number lexeme mark
  else queue

def closeBlocks (column : Int) (mark : Mark) (indent : Int) :
    List Int → List Token → Int × List Int × List Token
  | [], closed => (indent, [], closed)
  | outer :: rest, closed =>
    if column < indent then
      closeBlocks column mark outer rest (closed ++ [⟨.blockEnd, mark, mark⟩])
    else (indent, outer :: rest, closed)

/-- Closes the block collections that are further in than a column. -/
def unindentTo (queue : TokenQueue) (column : Int) : TokenQueue :=
  if queue.inFlow then queue
  else
    let (indent, outerIndents, closed) :=
      closeBlocks column queue.mark queue.indent queue.outerIndents []
    { queue with indent, outerIndents, waiting := queue.waiting ++ closed }

/-- Moves over blanks, comments and line breaks. A byte order mark may start a line, and
tabs may stand where no key can start. -/
def skipSpacing : Nat → TokenQueue → TokenQueue
  | 0, queue => queue
  | fuel + 1, queue =>
    let cursor := queue.cursor
    let cursor := if cursor.mark.column = 0 ∧ cursor.sees '\ufeff' then cursor.skip 1 else cursor
    let tabs := queue.inFlow || !queue.keyAllowed
    let cursor := cursor.skipWhile fun c => c = ' ' || (tabs && c = '\t')
    let cursor := if cursor.sees '#' then cursor.skipWhile (fun c => !isBreak c) else cursor
    match cursor.lineBreak? with
    | none => { queue with cursor }
    | some (_, after) =>
      skipSpacing fuel
        { queue with cursor := after, keyAllowed := queue.keyAllowed || !queue.inFlow }

/-- The end counts as the start of a new line. -/
def endStream (queue : TokenQueue) : Except Fault TokenQueue := do
  let mark := if queue.mark.column = 0 then queue.mark else queue.mark.nextLine 0
  let queue := { queue with cursor := { queue.cursor with mark } }
  let queue ← (queue.unindentTo (-1)).dropKey
  return { queue with keyAllowed := false }.push .streamEnd mark mark

def readDirective (queue : TokenQueue) : Except Fault TokenQueue := do
  let queue ← (queue.unindentTo (-1)).dropKey
  let (lexeme, after) ← queue.cursor.settle (scanDirective queue.cursor)
  return { queue with keyAllowed := false, cursor := after }.push lexeme queue.mark after.mark

def readDocumentMarker (queue : TokenQueue) (lexeme : Lexeme) : Except Fault TokenQueue := do
  let queue ← (queue.unindentTo (-1)).dropKey
  return { queue with keyAllowed := false }.pushIndicator lexeme 3

def openFlow (queue : TokenQueue) (lexeme : Lexeme) : Except Fault TokenQueue := do
  let queue ← queue.noteKey
  return { queue with keys := none :: queue.keys, keyAllowed := true }.pushIndicator lexeme 1

def closeFlow (queue : TokenQueue) (lexeme : Lexeme) : Except Fault TokenQueue := do
  let queue ← queue.dropKey
  let keys := if queue.inFlow then queue.keys.drop 1 else queue.keys
  return { queue with keys, keyAllowed := false }.pushIndicator lexeme 1

def readFlowEntry (queue : TokenQueue) : Except Fault TokenQueue := do
  let queue ← queue.dropKey
  return { queue with keyAllowed := true }.pushIndicator .flowEntry 1

def readBlockEntry (queue : TokenQueue) : Except Fault TokenQueue := do
  if !queue.inFlow && !queue.keyAllowed then
    .error (.alone .entryNotAllowed queue.mark)
  else
    let queue ←
      (queue.indentTo queue.mark.column none .blockSequenceStart queue.mark).dropKey
    return { queue with keyAllowed := true }.pushIndicator .blockEntry 1

def readKey (queue : TokenQueue) : Except Fault TokenQueue := do
  if !queue.inFlow && !queue.keyAllowed then
    .error (.alone .keyNotAllowed queue.mark)
  else
    let queue ←
      (queue.indentTo queue.mark.column none .blockMappingStart queue.mark).dropKey
    return { queue with keyAllowed := !queue.inFlow }.pushIndicator .key 1

/-- A colon makes the noted node a key, which is inserted before it. -/
def readValue (queue : TokenQueue) : Except Fault TokenQueue :=
  match queue.keys with
  | some key :: outer =>
    let queue := queue.insertAt key.tokenNumber .key key.mark
    let queue :=
      queue.indentTo key.mark.column (some key.tokenNumber) .blockMappingStart key.mark
    .ok ({ queue with keys := none :: outer, keyAllowed := false }.pushIndicator .value 1)
  | _ =>
    if !queue.inFlow && !queue.keyAllowed then
      .error (.alone .valueNotAllowed queue.mark)
    else
      let queue := queue.indentTo queue.mark.column none .blockMappingStart queue.mark
      .ok ({ queue with keyAllowed := !queue.inFlow }.pushIndicator .value 1)

/-- Reads a token that may start a key by itself. -/
def readNode (queue : TokenQueue) (scan : Cursor → Except Fault (Lexeme × Cursor)) :
    Except Fault TokenQueue := do
  let queue ← queue.noteKey
  let (lexeme, after) ← queue.cursor.settle (scan queue.cursor)
  return { queue with keyAllowed := false, cursor := after }.push lexeme queue.mark after.mark

def readBlockScalar (queue : TokenQueue) (literal : Bool) : Except Fault TokenQueue := do
  let queue ← queue.dropKey
  let (text, after) ← queue.cursor.settle (scanBlock literal queue.indent queue.cursor)
  let lexeme := .scalar (String.ofList text) .block
  return { queue with keyAllowed := true, cursor := after }.push lexeme queue.mark after.mark

def readPlainScalar (queue : TokenQueue) : Except Fault TokenQueue := do
  let queue ← queue.noteKey
  let (plain, after) ← queue.cursor.settle (scanPlain queue.inFlow queue.indent queue.cursor)
  let lexeme := .scalar (String.ofList plain.text) .plain
  return { queue with keyAllowed := plain.brokenAfter, cursor := after }.push
    lexeme queue.mark after.mark

/-- Characters that start no plain scalar unless a rule below lets them. -/
def isIndicator (c : Char) : Bool :=
  "-?:,[]\x7b\x7d#&*!|>'\"%@\x60".toList.contains c

/-- Indicators that start a plain scalar when no blank follows; a question mark and a colon
do so outside flow collections only. -/
def startsPlain (queue : TokenQueue) : Bool :=
  match queue.cursor.rest with
  | [] => false
  | c :: rest =>
    !(isSpacing c || isIndicator c) ||
      (c = '-' && !rest.head?.any isSpaceOrTab) ||
      (!queue.inFlow && (c = '?' || c = ':') && !rest.head?.all isSpacing)

/-- Reads the next token, with the cursor at its first character. -/
def readToken (queue : TokenQueue) : Except Fault TokenQueue :=
  let cursor := queue.cursor
  match cursor.rest with
  | [] => queue.endStream
  | c :: _ =>
    if c = '%' ∧ cursor.mark.column = 0 then queue.readDirective
    else if cursor.seesMarker '-' then queue.readDocumentMarker .documentStart
    else if cursor.seesMarker '.' then queue.readDocumentMarker .documentEnd
    else if c = '[' then queue.openFlow .flowSequenceStart
    else if c = '\x7b' then queue.openFlow .flowMappingStart
    else if c = ']' then queue.closeFlow .flowSequenceEnd
    else if c = '\x7d' then queue.closeFlow .flowMappingEnd
    else if c = ',' then queue.readFlowEntry
    else if c = '-' ∧ cursor.endsWord 1 then queue.readBlockEntry
    else if c = '?' ∧ (queue.inFlow ∨ cursor.endsWord 1) then queue.readKey
    else if c = ':' ∧ (queue.inFlow ∨ cursor.endsWord 1) then queue.readValue
    else if c = '*' then
      queue.readNode fun cursor => do
        let (name, after) ← scanAnchor .aliasName cursor
        return (.alias name, after)
    else if c = '&' then
      queue.readNode fun cursor => do
        let (name, after) ← scanAnchor .anchorName cursor
        return (.anchor name, after)
    else if c = '!' then
      queue.readNode fun cursor => do
        let ((handle, bytes), after) ← scanTag queue.inFlow cursor
        return (.tag handle bytes, after)
    else if c = '|' ∧ !queue.inFlow then queue.readBlockScalar true
    else if c = '>' ∧ !queue.inFlow then queue.readBlockScalar false
    else if c = '\'' ∨ c = '"' then
      queue.readNode fun cursor => do
        let (text, after) ← scanQuoted c cursor
        return (.scalar (String.ofList text) .quoted, after)
    else if queue.startsPlain then queue.readPlainScalar
    else .error (.within .nextToken queue.mark .noTokenStart queue.mark)

/-- Adds the next tokens to the end of the queue. -/
def readAhead (queue : TokenQueue) : Except Fault TokenQueue :=
  let queue := skipSpacing (queue.cursor.rest.length + 1) queue
  match queue.cursor.badAhead? with
  | some fault => .error fault
  | none => do
    let queue ← queue.dropStaleKeys
    (queue.unindentTo queue.mark.column).readToken

/-- The head of the queue may still get a key before it. -/
def awaitsKey (queue : TokenQueue) : Bool :=
  queue.keys.any fun possible => possible.any fun key => key.tokenNumber = queue.handedOut

def fill : Nat → TokenQueue → Except Fault TokenQueue
  | 0, queue => .ok queue
  | fuel + 1, queue =>
    if queue.waiting.isEmpty then queue.readAhead >>= fill fuel
    else do
      let queue ← queue.dropStaleKeys
      if queue.awaitsKey then queue.readAhead >>= fill fuel else return queue

/-- The next token, which stays in the queue. -/
def peek (queue : TokenQueue) : Except Fault (Token × TokenQueue) := do
  let queue ← fill (queue.cursor.rest.length + 3) queue
  match queue.waiting with
  | token :: _ => return (token, queue)
  | [] => return (⟨.streamEnd, queue.mark, queue.mark⟩, queue)

/-- Hands out the head of the queue. -/
def drop (queue : TokenQueue) : TokenQueue :=
  { queue with waiting := queue.waiting.drop 1, handedOut := queue.handedOut + 1 }

end TokenQueue
end AssetLint.Yaml
