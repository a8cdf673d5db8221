import AssetLint.Yaml.Event
import AssetLint.Yaml.Token.Queue

/-!
Events from tokens. `pending` is the stack of what the grammar still expects, the next part
first, and each step answers one event.
-/
namespace AssetLint.Yaml

inductive Part where
  | documentStart (implicit : Bool)
  | documentContent
  | documentEnd
  | blockNode
  | blockEntry (first : Bool) (start : Mark)
  | indentlessEntry
  | blockKey (first : Bool) (start : Mark)
  | blockValue (start : Mark)
  | flowEntry (first : Bool) (start : Mark)
  | pairKey
  | pairValue
  | pairEnd
  | flowKey (first : Bool) (start : Mark)
  | flowValue
  | flowNoValue

structure EventReader where
  queue : TokenQueue
  pending : List Part := [.documentStart true]
  /-- Expansions of tag handles in the present document. -/
  handles : List (String × TagText) := []

namespace EventReader

abbrev Step := Except Fault ((Event × Mark) × EventReader)

def ofText (text : List Char) : EventReader :=
  { queue := TokenQueue.ofText text }

def peek (reader : EventReader) : Except Fault (Token × EventReader) := do
  let (token, queue) ← reader.queue.peek
  return (token, { reader with queue })

/-- Moves past the token that was peeked at, and peeks at the one after it. -/
def next (reader : EventReader) : Except Fault (Token × EventReader) :=
  peek { reader with queue := reader.queue.drop }

def skip (reader : EventReader) : EventReader :=
  { reader with queue := reader.queue.drop }

def expect (reader : EventReader) (parts : List Part) : EventReader :=
  { reader with pending := parts ++ reader.pending }

def emit (reader : EventReader) (event : Event) (mark : Mark) : Step :=
  .ok ((event, mark), reader)

/-- A node without content. -/
def emitEmpty (reader : EventReader) (mark : Mark) : Step :=
  reader.emit (.scalar {} "" .plain) mark

def defaultHandles : List (String × TagText) :=
  [("!", textBytes "!"), ("!!", textBytes "tag:yaml.org,2002:")]

/-- Reads the directives before a document; the answer has the token after them. -/
def readDirectives : Nat → Bool → List (String × TagText) → EventReader →
    Except Fault (List (String × TagText) × Token × EventReader)
  | 0, _, handles, reader => do
    let (token, reader) ← reader.peek
    return (handles, token, reader)
  | fuel + 1, versioned, handles, reader => do
    let (token, reader) ← reader.peek
    match token.lexeme with
    | .versionDirective major minor =>
      if versioned then .error (.alone .repeatedVersion token.start)
      else if major ≠ 1 ∨ (minor ≠ 1 ∧ minor ≠ 2) then
        .error (.alone .foreignVersion token.start)
      else readDirectives fuel true handles reader.skip
    | .tagDirective handle expansion =>
      if handles.any fun entry => entry.1 = handle then
        .error (.alone .repeatedHandle token.start)
      else readDirectives fuel versioned (handles ++ [(handle, expansion)]) reader.skip
    | _ => return (handles, token, reader)

def skipDocumentEnds : Nat → EventReader → Except Fault (Token × EventReader)
  | 0, reader => reader.peek
  | fuel + 1, reader => do
    let (token, reader) ← reader.peek
    match token.lexeme with
    | .documentEnd => skipDocumentEnds fuel reader.skip
    | _ => return (token, reader)

def fuel (reader : EventReader) : Nat :=
  reader.queue.cursor.rest.length + reader.queue.waiting.length + 3

/-- Before a document. Only the first one may go without a marker. -/
def documentStart (reader : EventReader) (implicit : Bool) : Step := do
  let (token, reader) ← if implicit then reader.peek else skipDocumentEnds reader.fuel reader
  match token.lexeme with
  | .streamEnd => reader.skip.emit .streamEnd token.start
  | lexeme =>
    let marked :=
      match lexeme with
      | .versionDirective .. | .tagDirective .. | .documentStart => true
      | _ => false
    if implicit && !marked then
      ({ reader with handles := defaultHandles }.expect [.blockNode, .documentEnd]).emit
        .documentStart token.start
    else
      let start := token.start
      let (handles, token, reader) ← readDirectives reader.fuel false [] reader
      match token.lexeme with
      | .documentStart =>
        ({ reader with handles := handles ++ defaultHandles }.skip.expect
          [.documentContent, .documentEnd]).emit .documentStart start
      | _ => .error (.alone .expectedDocumentStart token.start)

def documentEnd (reader : EventReader) : Step := do
  let (token, reader) ← reader.peek
  let reader := reader.expect [.documentStart false]
  match token.lexeme with
  | .documentEnd => reader.skip.emit .documentEnd token.start
  | _ => reader.emit .documentEnd token.start

/-- The whole tag from a handle and the rest. -/
def expandTag (reader : EventReader) (start tagStart : Mark) (handle : String) (rest : TagText) :
    Except Fault TagText :=
  if handle.isEmpty then .ok rest
  else
    match reader.handles.find? fun entry => entry.1 = handle with
    | some entry => .ok (entry.2 ++ rest)
    | none => .error (.within .node start .undefinedHandle tagStart)

/-- An anchor and a tag in either order; the answer has the token after them. -/
def nodeProperties (reader : EventReader) (token : Token) :
    Except Fault (NodeProperties × Token × EventReader) := do
  match token.lexeme with
  | .anchor name =>
    let (second, reader) ← reader.next
    match second.lexeme with
    | .tag handle rest =>
      let (third, reader) ← reader.next
      let tag ← reader.expandTag token.start second.start handle rest
      return ({ anchor := some name, tag := some tag }, third, reader)
    | _ => return ({ anchor := some name }, second, reader)
  | .tag handle rest =>
    let (second, reader) ← reader.next
    match second.lexeme with
    | .anchor name =>
      let (third, reader) ← reader.next
      let tag ← reader.expandTag token.start token.start handle rest
      return ({ anchor := some name, tag := some tag }, third, reader)
    | _ =>
      let tag ← reader.expandTag token.start token.start handle rest
      return ({ tag := some tag }, second, reader)
  | _ => return ({}, token, reader)

/-- Which nodes may stand here. -/
inductive NodePlace where
  | flow
  | block
  /-- A block sequence may stand at the column of its mapping. -/
  | blockOrIndentless
  deriving DecidableEq

def node (reader : EventReader) (place : NodePlace) : Step := do
  let (first, reader) ← reader.peek
  match first.lexeme with
  | .alias name => reader.skip.emit (.alias name) first.start
  | _ =>
    let (properties, token, reader) ← reader.nodeProperties first
    let start := first.start
    match token.lexeme, place with
    | .blockEntry, .blockOrIndentless =>
      (reader.expect [.indentlessEntry]).emit (.sequenceStart properties) start
    | .scalar text style, _ =>
      reader.skip.emit (.scalar properties text style) start
    | .flowSequenceStart, _ =>
      (reader.expect [.flowEntry true token.start]).emit (.sequenceStart properties) start
    | .flowMappingStart, _ =>
      (reader.expect [.flowKey true token.start]).emit (.mappingStart properties) start
    | .blockSequenceStart, .block | .blockSequenceStart, .blockOrIndentless =>
      (reader.expect [.blockEntry true token.start]).emit (.sequenceStart properties) start
    | .blockMappingStart, .block | .blockMappingStart, .blockOrIndentless =>
      (reader.expect [.blockKey true token.start]).emit (.mappingStart properties) start
    | _, _ =>
      if properties.anchor.isSome || properties.tag.isSome then
        reader.emit (.scalar properties "" .plain) start
      else
        let construct := if place = .flow then .flowNode else .blockNode
        .error (.within construct start .missingContent token.start)

def documentContent (reader : EventReader) : Step := do
  let (token, reader) ← reader.peek
  match token.lexeme with
  | .versionDirective .. | .tagDirective .. | .documentStart | .documentEnd | .streamEnd =>
    reader.emitEmpty token.start
  | _ => reader.node .block

def blockEntry (reader : EventReader) (first : Bool) (start : Mark) : Step := do
  let (token, reader) ← if first then (do reader.peek >>= fun p => p.2.next) else reader.peek
  match token.lexeme with
  | .blockEntry =>
    let (after, reader) ← reader.next
    let reader := reader.expect [.blockEntry false start]
    match after.lexeme with
    | .blockEntry | .blockEnd => reader.emitEmpty token.stop
    | _ => reader.node .block
  | .blockEnd => reader.skip.emit .sequenceEnd token.start
  | _ => .error (.within .blockSequence start .expectedDash token.start)

def indentlessEntry (reader : EventReader) : Step := do
  let (token, reader) ← reader.peek
  match token.lexeme with
  | .blockEntry =>
    let (after, reader) ← reader.next
    let reader := reader.expect [.indentlessEntry]
    match after.lexeme with
    | .blockEntry | .key | .value | .blockEnd => reader.emitEmpty token.stop
    | _ => reader.node .block
  | _ => reader.emit .sequenceEnd token.start

def blockKey (reader : EventReader) (first : Bool) (start : Mark) : Step := do
  let (token, reader) ← if first then (do reader.peek >>= fun p => p.2.next) else reader.peek
  match token.lexeme with
  | .key =>
    let (after, reader) ← reader.next
    let reader := reader.expect [.blockValue start]
    match after.lexeme with
    | .key | .value | .blockEnd => reader.emitEmpty token.stop
    | _ => reader.node .blockOrIndentless
  | .blockEnd => reader.skip.emit .mappingEnd token.start
  | _ => .error (.within .blockMapping start .expectedKey token.start)

def blockValue (reader : EventReader) (start : Mark) : Step := do
  let (token, reader) ← reader.peek
  let reader := reader.expect [.blockKey false start]
  match token.lexeme with
  | .value =>
    let (after, reader) ← reader.next
    match after.lexeme with
    | .key | .value | .blockEnd => reader.emitEmpty token.stop
    | _ => reader.node .blockOrIndentless
  | _ => reader.emitEmpty token.start

/-- Moves over the comma that separates the items of a flow collection. -/
def afterComma (reader : EventReader) (first : Bool) (closing : Lexeme) (fault : Mark → Fault) :
    Except Fault (Token × EventReader) := do
  if first then (do reader.peek >>= fun p => p.2.next)
  else
    let (token, reader) ← reader.peek
    if token.lexeme = closing then return (token, reader)
    else if token.lexeme = .flowEntry then reader.next
    else .error (fault token.start)

def flowEntry (reader : EventReader) (first : Bool) (start : Mark) : Step := do
  let (token, reader) ← reader.afterComma first .flowSequenceEnd
    (.within .flowSequence start .expectedCommaOrBracket)
  match token.lexeme with
  | .flowSequenceEnd => reader.skip.emit .sequenceEnd token.start
  | .key =>
    (reader.skip.expect [.pairKey, .flowEntry false start]).emit (.mappingStart {}) token.start
  | _ => (reader.expect [.flowEntry false start]).node .flow

/-- The key of a pair inside a flow sequence. Where there is none, the token that shows so
is skipped. -/
def pairKey (reader : EventReader) : Step := do
  let (token, reader) ← reader.peek
  let reader := reader.expect [.pairValue]
  match token.lexeme with
  | .value | .flowEntry | .flowSequenceEnd => reader.skip.emitEmpty token.stop
  | _ => reader.node .flow

def pairValue (reader : EventReader) : Step := do
  let (token, reader) ← reader.peek
  let reader := reader.expect [.pairEnd]
  match token.lexeme with
  | .value =>
    let (after, reader) ← reader.next
    match after.lexeme with
    | .flowEntry | .flowSequenceEnd => reader.emitEmpty after.start
    | _ => reader.node .flow
  | _ => reader.emitEmpty token.start

def pairEnd (reader : EventReader) : Step := do
  let (token, reader) ← reader.peek
  reader.emit .mappingEnd token.start

def flowKey (reader : EventReader) (first : Bool) (start : Mark) : Step := do
  let (token, reader) ← reader.afterComma first .flowMappingEnd
    (.within .flowMapping start .expectedCommaOrBrace)
  match token.lexeme with
  | .flowMappingEnd => reader.skip.emit .mappingEnd token.start
  | .key =>
    let (after, reader) ← reader.next
    let reader := reader.expect [.flowValue, .flowKey false start]
    match after.lexeme with
    | .value | .flowEntry | .flowMappingEnd => reader.emitEmpty after.start
    | _ => reader.node .flow
  | _ => (reader.expect [.flowNoValue, .flowKey false start]).node .flow

def flowValue (reader : EventReader) : Step := do
  let (token, reader) ← reader.peek
  match token.lexeme with
  | .value =>
    let (after, reader) ← reader.next
    match after.lexeme with
    | .flowEntry | .flowMappingEnd => reader.emitEmpty after.start
    | _ => reader.node .flow
  | _ => reader.emitEmpty token.start

def flowNoValue (reader : EventReader) : Step := do
  let (token, reader) ← reader.peek
  reader.emitEmpty token.start

/-- The next event. After the last one the answer stays the end of the stream. -/
def step (reader : EventReader) : Step :=
  match reader.pending with
  | [] => reader.emit .streamEnd reader.queue.mark
  | part :: pending =>
    let reader := { reader with pending }
    match part with
    | .documentStart implicit => reader.documentStart implicit
    | .documentContent => reader.documentContent
    | .documentEnd => reader.documentEnd
    | .blockNode => reader.node .block
    | .blockEntry first start => reader.blockEntry first start
    | .indentlessEntry => reader.indentlessEntry
    | .blockKey first start => reader.blockKey first start
    | .blockValue start => reader.blockValue start
    | .flowEntry first start => reader.flowEntry first start
    | .pairKey => reader.pairKey
    | .pairValue => reader.pairValue
    | .pairEnd => reader.pairEnd
    | .flowKey first start => reader.flowKey first start
    | .flowValue => reader.flowValue
    | .flowNoValue => reader.flowNoValue

end EventReader
end AssetLint.Yaml
