import AssetLint.Pattern.Reader.Class
import AssetLint.Unicode.Class

/-!
Groups, alternatives and repetitions, and with them whole patterns. Open groups and pending
alternatives are kept on a stack.
-/
namespace AssetLint.Pattern

/-- Items next to each other, from a start. -/
structure Run where
  start : Nat
  items : List Tree := []

def Run.tree (run : Run) (stop : Nat) : Tree :=
  match run.items with
  | [] => .empty ⟨run.start, stop⟩
  | [single] => single
  | items => .sequence ⟨run.start, stop⟩ items

inductive GroupFrame where
  /-- An open group inside the items before it, and the mode to go back to. -/
  | group (before : Run) (span : Span) (captures : Bool) (changes : FlagChanges) (verbose : Bool)
  | alternatives (start : Nat) (branches : List Tree)

/-- What an opening parenthesis starts. -/
inductive Opening where
  | flags (span : Span) (changes : FlagChanges)
  | group (span : Span) (captures : Bool) (changes : FlagChanges)

namespace Read

def flag? : Char → Option Flag
  | 'i' => some .caseInsensitive
  | 'm' => some .multiLine
  | 's' => some .dotMatchesNewline
  | 'U' => some .swapGreed
  | 'u' => some .unicode
  | 'R' => some .crlf
  | 'x' => some .verbose
  | _ => none

/-- Flags up to a colon or a closing parenthesis. `seen` has their places, and `negation`
the place of the hyphen. -/
def flagList (lastHyphen : Option Nat) (negation : Option Nat) :
    Nat → List (Flag × Nat) → FlagChanges → Read FlagChanges
  | 0, _, changes => return changes
  | fuel + 1, seen, changes => do
    let place ← offset
    match ← peek? with
    | none => failHere .flagUnfinished
    | some c =>
      if c = ':' ∨ c = ')' then
        match lastHyphen with
        | some place => fail .flagDangling place (place + 1)
        | none => return changes
      else if c = '-' then
        match negation with
        | some first =>
          throw ⟨.flagNegatedTwice, ⟨place, place + 1⟩, some ⟨first, first + 1⟩⟩
        | none =>
          skip 1
          flagList (some place) (some place) fuel seen changes
      else
        match flag? c with
        | none => failHere .flagUnknown
        | some flag =>
          match seen.find? fun entry => entry.1 = flag with
          | some (_, first) =>
            throw ⟨.flagRepeated, ⟨place, place + 1⟩, some ⟨first, first + 1⟩⟩
          | none =>
            skip 1
            flagList none negation fuel (seen ++ [(flag, place)])
              (changes ++ [(flag, negation.isNone)])

def isNameChar (first : Bool) (c : Char) : Bool :=
  c = '_' || Unicode.isLetter c ||
    (!first && (c = '.' || c = '[' || c = ']' || Unicode.isNumber c))

/-- The name of a capture group and its closing angle bracket. -/
def captureName : Read Unit := do
  let start ← offset
  let rest := (← get).rest
  let name := rest.takeWhile (· ≠ '>')
  let fine := (name.take 1).takeWhile (isNameChar true) ++
    ((name.drop 1).takeWhile (isNameChar false))
  let fine := if (name.take 1).all (isNameChar true) then fine else []
  if fine.length < name.length then
    fail .nameInvalid (start + fine.length) (start + fine.length + 1)
  else
    let stop := start + name.length
    if rest.length = name.length then fail .nameUnclosed stop stop
    else if name.isEmpty then fail .nameEmpty start start
    else
      skip (name.length + 1)
      match (← get).names.find? fun entry => entry.1 = name with
      | some (_, earlier) => throw ⟨.nameRepeated, ⟨start, stop⟩, some earlier⟩
      | none =>
        modify fun reader =>
          { reader with names := reader.names ++ [(name, ⟨start, stop⟩)] }

/-- Reads what an opening parenthesis starts, with the reader at it. -/
def opening : Read Opening := do
  let start ← offset
  let span : Span := ⟨start, start + 1⟩
  skip 1
  skipIgnorable
  let inner ← offset
  if (← skipText? "?=") || (← skipText? "?!") then fail .lookAround start (← offset)
  else if (← skipText? "?<=") || (← skipText? "?<!") then fail .lookAround start (← offset)
  else if (← skipText? "?P<") || (← skipText? "?<") then
    captureName
    return .group span true []
  else if ← skipText? "?" then
    if ← atEnd then fail .groupUnclosed start (start + 1)
    else
      let changes ← flagList none none ((← get).rest.length + 1) [] []
      let closed := (← peek?) = some ')'
      let count := (← offset) - inner
      skip 1
      if closed then
        if count = 1 then fail .nothingToRepeat inner inner
        else return .flags ⟨start, ← offset⟩ changes
      else return .group span false changes
  else return .group span true []

/-- Begins a group, or sets flags for the rest of the present one. -/
def openGroup (run : Run) (stack : List GroupFrame) : Read (Run × List GroupFrame) := do
  let verbose := (← get).verbose
  let into (changes : FlagChanges) : Read Unit :=
    modify fun reader => { reader with verbose := (changes.value? .verbose).getD verbose }
  match ← opening with
  | .flags span changes =>
    into changes
    return ({ run with items := run.items ++ [.flags span changes] }, stack)
  | .group span captures changes =>
    into changes
    return (⟨← offset, []⟩, .group run span captures changes verbose :: stack)

/-- The content of a group or pattern once its last branch has been read. -/
def closeBranches (run : Run) (stop : Nat) : List GroupFrame → Tree × List GroupFrame
  | .alternatives start branches :: stack =>
    (.alternation ⟨start, stop⟩ (branches ++ [run.tree stop]), stack)
  | stack => (run.tree stop, stack)

def closeGroup (run : Run) (stack : List GroupFrame) : Read (Run × List GroupFrame) := do
  let stop ← offset
  let (inner, stack) := closeBranches run stop stack
  match stack with
  | .group before span captures changes verbose :: stack =>
    modify fun reader => { reader with verbose }
    skip 1
    let tree := Tree.group ⟨span.start, ← offset⟩ captures changes inner
    return ({ before with items := before.items ++ [tree] }, stack)
  | _ => failHere .groupUnopened

def closePattern (run : Run) (stack : List GroupFrame) : Read Tree := do
  let (tree, stack) := closeBranches run (← offset) stack
  match stack with
  | [] => return tree
  | .group _ span .. :: _ => fail .groupUnclosed span.start span.stop
  | .alternatives .. :: _ => return tree

def nextBranch (run : Run) (stack : List GroupFrame) : Read (Run × List GroupFrame) := do
  let stop ← offset
  skip 1
  let start ← offset
  match stack with
  | .alternatives first branches :: stack =>
    return (⟨start, []⟩, .alternatives first (branches ++ [run.tree stop]) :: stack)
  | stack => return (⟨start, []⟩, .alternatives run.start [run.tree stop] :: stack)

/-- The item that a repetition operator applies to. -/
def repeated (run : Run) : Read (List Tree × Tree) := do
  let place ← offset
  match run.items.reverse with
  | [] | .empty _ :: _ | .flags .. :: _ => fail .nothingToRepeat place place
  | inner :: before => return (before.reverse, inner)

def finishRepetition (run : Run) (before : List Tree) (inner : Tree) (least : Nat)
    (most : Option Nat) (greedy : Bool) : Read Run := do
  let tree := Tree.repetition ⟨inner.span.start, ← offset⟩ inner least most greedy
  return { run with items := before ++ [tree] }

/-- A question mark after a repetition makes it prefer few rounds. -/
def skipLazyMark : Read Bool := do
  let lazy := (← peek?) = some '?'
  if lazy then skip 1
  return lazy

def simpleRepetition (run : Run) (least : Nat) (most : Option Nat) : Read Run := do
  let (before, inner) ← repeated run
  skip 1
  let lazy ← skipLazyMark
  finishRepetition run before inner least most !lazy

/-- The bounds in braces, with the reader after the opening one at `start`. -/
def counts (start : Nat) : Read (Nat × Option Nat) := do
  let unclosed {α : Type} : Read α := do fail .countUnclosed start (← offset)
  let least ← decimal
  match ← peek? with
  | none => unclosed
  | some ',' =>
    if !(← next) then unclosed
    else if (← peek?) = some '\x7d' then return (← liftM least, none)
    else
      let least ← liftM least
      let most ← liftM (← decimal)
      if (← peek?) = some '\x7d' then return (least, some most) else unclosed
  | some c =>
    let least ← liftM least
    if c = '\x7d' then return (least, some least) else unclosed

def countedRepetition (run : Run) : Read Run := do
  let (before, inner) ← repeated run
  let start ← offset
  if !(← next) then fail .countUnclosed start (← offset)
  else
    let (least, most) ← counts start
    let lazy ← if ← next then skipLazyMark else pure false
    if most.any (· < least) then fail .countOrder start (← offset)
    else finishRepetition run before inner least most !lazy

def primitive : Read Tree := do
  let start ← offset
  match ← peek? with
  | some '\\' => return (← escape).tree
  | some c =>
    skip 1
    let span : Span := ⟨start, start + 1⟩
    match c with
    | '.' => return .dot span
    | '^' => return .assertion span .lineStart
    | '$' => return .assertion span .lineEnd
    | c => return .literal { span, char := c }
  | none => return .empty ⟨start, start⟩

/-- Reads items to the end of the pattern. -/
def items : Nat → Run → List GroupFrame → Read Tree
  | 0, run, stack => closePattern run stack
  | fuel + 1, run, stack => do
    skipIgnorable
    match ← peek? with
    | none => closePattern run stack
    | some c =>
      let add (tree : Tree) : Run := { run with items := run.items ++ [tree] }
      match c with
      | '(' =>
        let (run, stack) ← openGroup run stack
        items fuel run stack
      | ')' =>
        let (run, stack) ← closeGroup run stack
        items fuel run stack
      | '|' =>
        let (run, stack) ← nextBranch run stack
        items fuel run stack
      | '[' => items fuel (add (← bracketed)) stack
      | '?' => items fuel (← simpleRepetition run 0 (some 1)) stack
      | '*' => items fuel (← simpleRepetition run 0 none) stack
      | '+' => items fuel (← simpleRepetition run 1 none) stack
      | '\x7b' => items fuel (← countedRepetition run) stack
      | _ => items fuel (add (← primitive)) stack

end Read

mutual

/-- The first item nested too deep in a class, if any. -/
def ClassItem.tooDeep? (depth : Nat) : ClassItem → Option Span
  | .bracketed span _ set => if depth = 0 then some span else set.tooDeep? (depth - 1)
  | .union span items => if depth = 0 then some span else ClassItem.anyTooDeep? (depth - 1) items
  | _ => none

def ClassItem.anyTooDeep? (depth : Nat) : List ClassItem → Option Span
  | [] => none
  | item :: items => (item.tooDeep? depth).or (ClassItem.anyTooDeep? depth items)

def ClassSet.tooDeep? (depth : Nat) : ClassSet → Option Span
  | .item single => single.tooDeep? depth
  | .binary span _ left right =>
    if depth = 0 then some span
    else (left.tooDeep? (depth - 1)).or (right.tooDeep? (depth - 1))

end

mutual

/-- The first part nested deeper than the given number of levels, if any. -/
def Tree.tooDeep? (depth : Nat) : Tree → Option Span
  | .bracketed span _ set => if depth = 0 then some span else set.tooDeep? (depth - 1)
  | .repetition span inner .. => if depth = 0 then some span else inner.tooDeep? (depth - 1)
  | .group span _ _ inner => if depth = 0 then some span else inner.tooDeep? (depth - 1)
  | .alternation span branches =>
    if depth = 0 then some span else Tree.anyTooDeep? (depth - 1) branches
  | .sequence span items => if depth = 0 then some span else Tree.anyTooDeep? (depth - 1) items
  | _ => none

def Tree.anyTooDeep? (depth : Nat) : List Tree → Option Span
  | [] => none
  | tree :: trees => (tree.tooDeep? depth).or (Tree.anyTooDeep? depth trees)

end

/-- Reads a whole pattern. -/
def readTree (pattern : List Char) : Except Fault Tree := do
  let (tree, _) ← Read.items (pattern.length + 1) ⟨0, []⟩ [] { rest := pattern }
  match tree.tooDeep? nestLimit with
  | some span => .error ⟨.tooDeep, span, none⟩
  | none => .ok tree

end AssetLint.Pattern
