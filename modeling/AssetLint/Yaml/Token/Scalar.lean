import AssetLint.Text.Lines
import AssetLint.Unicode.Ranges
import AssetLint.Yaml.Cursor
import AssetLint.Yaml.Token

/-!
Scalars in their three styles. Blanks and breaks between two runs of text are collected in a
`Gap`; a single line feed folds to a space, and further breaks stay.
-/
namespace AssetLint.Yaml

/-- What stands between two runs of text in a plain or quoted scalar. -/
structure Gap where
  /-- Blanks before the first break. -/
  blanks : List Char := []
  broken : Bool := false
  firstBreak : Option Char := none
  laterBreaks : List Char := []

namespace Gap

def addBreak (gap : Gap) (c : Char) : Gap :=
  if gap.broken then { gap with laterBreaks := gap.laterBreaks ++ [c] }
  else { gap with blanks := [], broken := true, firstBreak := some c }

def folded (gap : Gap) : List Char :=
  if gap.broken then
    if gap.firstBreak = some '\n' then
      if gap.laterBreaks.isEmpty then [' '] else gap.laterBreaks
    else gap.firstBreak.toList ++ gap.laterBreaks
  else gap.blanks

/-- Reads blanks and breaks. Blanks after a break are dropped; the answer is the place of a
tab among them left of the column `tabsFrom`. -/
def read (tabsFrom : Int) : Nat → Gap → Cursor → Except Mark (Gap × Cursor)
  | 0, gap, cursor => .ok (gap, cursor)
  | fuel + 1, gap, cursor =>
    match cursor.lineBreak? with
    | some (c, after) => read tabsFrom fuel (gap.addBreak c) after
    | none =>
      match cursor.rest with
      | c :: _ =>
        if isSpaceOrTab c then
          if gap.broken ∧ c = '\t' ∧ (cursor.mark.column : Int) < tabsFrom then
            .error cursor.mark
          else
            let gap := if gap.broken then gap else { gap with blanks := gap.blanks ++ [c] }
            read tabsFrom fuel gap (cursor.skip 1)
        else .ok (gap, cursor)
      | [] => .ok (gap, cursor)

end Gap

def isFlowIndicator (c : Char) : Bool :=
  c = ',' || c = '[' || c = ']' || c = '\x7b' || c = '\x7d'

/-- The run of a plain scalar up to a blank or an indicator that ends it, and whether it
stopped at a colon that flow collections forbid. -/
def plainRun (inFlow : Bool) : List Char → List Char × Bool
  | [] => ([], false)
  | c :: rest =>
    if isSpacing c then ([], false)
    else if inFlow && c = ':' && rest.head?.any (fun d => isFlowIndicator d || d = '?') then
      ([], true)
    else if (c = ':' && rest.head?.all isSpacing) || (inFlow && isFlowIndicator c) then
      ([], false)
    else
      let (run, forbidden) := plainRun inFlow rest
      (c :: run, forbidden)

structure PlainText where
  text : List Char
  /-- A line break was read after the text. -/
  brokenAfter : Bool

def readPlain (inFlow : Bool) (indent : Int) (start : Mark) :
    Nat → PlainText → Gap → Cursor → Except Fault (PlainText × Cursor)
  | 0, plain, _, cursor => .ok (plain, cursor)
  | fuel + 1, plain, gap, cursor =>
    let done : Except Fault (PlainText × Cursor) :=
      .ok ({ plain with brokenAfter := gap.broken }, cursor)
    if cursor.seesDocumentMarker || cursor.sees '#' then done
    else
      let (run, forbidden) := plainRun inFlow cursor.rest
      let after := cursor.skip run.length
      if forbidden then
        .error (.within .plainScalar start .unexpectedColon after.mark)
      else
        let (plain, gap) : PlainText × Gap :=
          if run.isEmpty then (plain, gap)
          else (⟨plain.text ++ gap.folded ++ run, false⟩, {})
        if !after.rest.head?.any isSpacing then
          .ok ({ plain with brokenAfter := gap.broken }, after)
        else
          match gap.read (indent + 1) (after.rest.length + 1) after with
          | .error place =>
            .error (.within .plainScalar start .tabBelowIndentation place)
          | .ok (gap, after) =>
            if !inFlow ∧ (after.mark.column : Int) < indent + 1 then
              .ok ({ plain with brokenAfter := gap.broken }, after)
            else readPlain inFlow indent start fuel plain gap after

def scanPlain (inFlow : Bool) (indent : Int) (cursor : Cursor) :
    Except Fault (PlainText × Cursor) :=
  readPlain inFlow indent cursor.mark (cursor.rest.length + 1) ⟨[], false⟩ {} cursor

/-- Letters after a backslash in double quotes, and the characters they stand for. -/
def simpleEscape? : Char → Option Char
  | '0' => some '\x00'
  | 'a' => some '\x07'
  | 'b' => some '\x08'
  | 't' | '\t' => some '\t'
  | 'n' => some '\n'
  | 'v' => some '\x0b'
  | 'f' => some '\x0c'
  | 'r' => some '\r'
  | 'e' => some '\x1b'
  | ' ' => some ' '
  | '"' => some '"'
  | '/' => some '/'
  | '\\' => some '\\'
  | 'N' => some '\x85'
  | '_' => some '\xa0'
  | 'L' => some '\u2028'
  | 'P' => some '\u2029'
  | _ => none

/-- Letters after a backslash that are followed by a number, and its count of digits. -/
def numericEscape? : Char → Option Nat
  | 'x' => some 2
  | 'u' => some 4
  | 'U' => some 8
  | _ => none

def scalarValue? (n : Nat) : Option Char :=
  if 0xD800 ≤ n ∧ n ≤ 0xDFFF ∨ 0x10FFFF < n then none else some (Char.ofNat n)

/-- The character written by an escape sequence, with the cursor at its backslash. -/
def readEscape (start : Mark) (cursor : Cursor) : Except Fault (Char × Cursor) :=
  let fail := fun problem place => Except.error (Fault.within .quotedEscape start problem place)
  match cursor.peek? 1 with
  | none => fail .unknownEscape cursor.mark
  | some letter =>
    match simpleEscape? letter, numericEscape? letter with
    | some c, _ => .ok (c, cursor.skip 2)
    | none, none => fail .unknownEscape cursor.mark
    | none, some count =>
      let after := cursor.skip 2
      match Unicode.hexNumber? (after.rest.take count) with
      | none => fail .expectedHex after.mark
      | some n =>
        if after.rest.length < count then fail .expectedHex after.mark
        else
          match scalarValue? n with
          | none => fail .badEscapedScalar after.mark
          | some c => .ok (c, after.skip count)

/-- The run of a quoted scalar up to a blank, the closing quote or an escaped line break,
which starts a gap of its own. -/
def quotedRun (quote : Char) (start : Mark) :
    Nat → List Char → Cursor → Except Fault (List Char × Gap × Cursor)
  | 0, run, cursor => .ok (run, {}, cursor)
  | fuel + 1, run, cursor =>
    match cursor.rest with
    | [] => .ok (run, {}, cursor)
    | c :: rest =>
      if isSpacing c then .ok (run, {}, cursor)
      else if c = quote then
        if quote = '\'' ∧ rest.head? = some quote then
          quotedRun quote start fuel (run ++ [quote]) (cursor.skip 2)
        else .ok (run, {}, cursor)
      else if c = '\\' ∧ quote = '"' then
        if rest.head?.any isBreak then
          .ok (run, { broken := true }, (cursor.skip 1).skipBreak)
        else do
          let (c, after) ← readEscape start cursor
          quotedRun quote start fuel (run ++ [c]) after
      else quotedRun quote start fuel (run ++ [c]) (cursor.skip 1)

def readQuoted (quote : Char) (start : Mark) :
    Nat → List Char → Cursor → Except Fault (List Char × Cursor)
  | 0, text, cursor => .ok (text, cursor)
  | fuel + 1, text, cursor =>
    if cursor.seesDocumentMarker then
      .error (.within .quotedScalar start .markerInQuotes cursor.mark)
    else if cursor.rest.isEmpty then
      .error (.within .quotedScalar start .endInQuotes cursor.mark)
    else do
      let (run, gap, after) ← quotedRun quote start (cursor.rest.length + 1) [] cursor
      let text := text ++ run
      if after.sees quote then .ok (text, after.skip 1)
      else
        match gap.read 0 (after.rest.length + 1) after with
        | .error place => .error (.within .quotedScalar start .endInQuotes place)
        | .ok (gap, after) => readQuoted quote start fuel (text ++ gap.folded) after

/-- Reads a scalar between single or double quotes, with the cursor at the opening one. -/
def scanQuoted (quote : Char) (cursor : Cursor) : Except Fault (List Char × Cursor) :=
  readQuoted quote cursor.mark (cursor.rest.length + 1) [] (cursor.skip 1)

/-- What becomes of the line breaks at the end of a block scalar. -/
inductive Chomping where
  | strip
  | clip
  | keep
  deriving DecidableEq, Repr

structure BlockHeader where
  chomping : Chomping
  /-- Zero where the indentation is found from the text. -/
  increment : Nat

def readChomping? (cursor : Cursor) : Option (Chomping × Cursor) :=
  if cursor.sees '+' then some (.keep, cursor.skip 1)
  else if cursor.sees '-' then some (.strip, cursor.skip 1)
  else none

def readIncrement (start : Mark) (cursor : Cursor) : Except Fault (Nat × Cursor) :=
  match cursor.rest.head? with
  | some c =>
    if c = '0' then .error (.within .blockScalar start .zeroIndentation cursor.mark)
    else if c.isDigit then .ok (c.toNat - 48, cursor.skip 1)
    else .ok (0, cursor)
  | none => .ok (0, cursor)

/-- The two indicators may come in either order. -/
def readBlockHeader (start : Mark) (cursor : Cursor) : Except Fault (BlockHeader × Cursor) := do
  match readChomping? cursor with
  | some (chomping, after) =>
    let (increment, after) ← readIncrement start after
    return (⟨chomping, increment⟩, after)
  | none =>
    let (increment, after) ← readIncrement start cursor
    match if increment = 0 then none else readChomping? after with
    | some (chomping, after) => return (⟨chomping, increment⟩, after)
    | none => return (⟨.clip, increment⟩, after)

structure BlockBreaks where
  breaks : List Char := []
  /-- The widest indentation met. -/
  widest : Nat := 0

/-- Reads indentation and empty lines. An indentation of zero is still to be found. -/
def readBlockBreaks (indent : Nat) (start : Mark) :
    Nat → BlockBreaks → Cursor → Except Fault (BlockBreaks × Cursor)
  | 0, state, cursor => .ok (state, cursor)
  | fuel + 1, state, cursor =>
    let spaces := (cursor.rest.takeWhile (· = ' ')).length
    let count := if indent = 0 then spaces else min spaces (indent - cursor.mark.column)
    let cursor := cursor.skip count
    let state := { state with widest := max state.widest cursor.mark.column }
    if (indent = 0 ∨ cursor.mark.column < indent) ∧ cursor.sees '\t' then
      .error (.within .blockScalar start .tabForIndentation cursor.mark)
    else
      match cursor.lineBreak? with
      | none => .ok (state, cursor)
      | some (c, after) =>
        readBlockBreaks indent start fuel
          { state with breaks := state.breaks ++ [c] } after

structure BlockText where
  text : List Char := []
  /-- The break after the last line read. -/
  lineBreak : Option Char := none
  /-- Breaks of the empty lines after it. -/
  breaks : List Char := []
  startsBlank : Bool := false

/-- Text of the breaks before the next line: in folded style a line feed between two lines
that start with no blank becomes a space, or nothing before empty lines. -/
def BlockText.joined (block : BlockText) (literal nextStartsBlank : Bool) : List Char :=
  let first :=
    if !literal && block.lineBreak = some '\n' && !block.startsBlank && !nextStartsBlank then
      if block.breaks.isEmpty then [' '] else []
    else block.lineBreak.toList
  first ++ block.breaks

def readBlockLines (literal : Bool) (indent : Nat) (start : Mark) :
    Nat → BlockText → Cursor → Except Fault (BlockText × Cursor)
  | 0, block, cursor => .ok (block, cursor)
  | fuel + 1, block, cursor =>
    if cursor.mark.column ≠ indent ∨ cursor.rest.isEmpty then .ok (block, cursor)
    else do
      let blank := cursor.rest.head?.any isSpaceOrTab
      let (line, after) := cursor.takeWhile fun c => !isBreak c
      let text := block.text ++ block.joined literal blank ++ line
      let (lineBreak, after) :=
        match after.lineBreak? with
        | some (c, after) => (some c, after)
        | none => (none, after)
      let (empty, after) ← readBlockBreaks indent start (after.rest.length + 1) {} after
      readBlockLines literal indent start fuel
        { text, lineBreak, breaks := empty.breaks, startsBlank := blank } after

/-- Reads a block scalar, with the cursor at its `|` or `>`. -/
def scanBlock (literal : Bool) (parentIndent : Int) (cursor : Cursor) :
    Except Fault (List Char × Cursor) := do
  let start := cursor.mark
  let (header, after) ← readBlockHeader start (cursor.skip 1)
  let after := after.skipToLineEnd
  if !after.endsLine then
    .error (.within .blockScalar start .expectedLineEnd after.mark)
  else
    let after := after.skipBreak
    let given : Nat :=
      if header.increment = 0 then 0
      else if 0 ≤ parentIndent then parentIndent.toNat + header.increment
      else header.increment
    let (empty, after) ← readBlockBreaks given start (after.rest.length + 1) {} after
    let indent :=
      if given = 0 then max (max empty.widest (parentIndent + 1).toNat) 1 else given
    let (block, after) ←
      readBlockLines literal indent start (after.rest.length + 1)
        { breaks := empty.breaks } after
    let tail :=
      match header.chomping with
      | .strip => []
      | .clip => block.lineBreak.toList
      | .keep => block.lineBreak.toList ++ block.breaks
    return (block.text ++ tail, after)

end AssetLint.Yaml
