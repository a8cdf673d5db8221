import AssetLint.Pattern.Tree

/-!
Position in a pattern that is being read, and its small parts: numbers, names, flags and
escapes. In verbose mode blanks and comments between parts do not count.
-/
namespace AssetLint.Pattern

structure Reader where
  rest : List Char
  offset : Nat := 0
  verbose : Bool := false
  /-- Names of capture groups so far. -/
  names : List (List Char × Span) := []

abbrev Read := StateT Reader (Except Fault)

namespace Read

def fail {α : Type} (defect : Defect) (start stop : Nat) : Read α :=
  throw ⟨defect, ⟨start, stop⟩, none⟩

def offset : Read Nat :=
  return (← get).offset

def peek? : Read (Option Char) :=
  return (← get).rest.head?

def atEnd : Read Bool :=
  return (← get).rest.isEmpty

/-- Fails at the next character, or at the end if there is none. -/
def failHere {α : Type} (defect : Defect) : Read α := do
  let start ← offset
  let stop := if ← atEnd then start else start + 1
  fail defect start stop

def skip (count : Nat) : Read Unit :=
  modify fun reader =>
    { reader with rest := reader.rest.drop count, offset := reader.offset + count }

/-- Count of the blanks and comment characters ahead. -/
def ignorable (inComment : Bool) : List Char → Nat
  | [] => 0
  | c :: rest =>
    if inComment then ignorable (c ≠ '\n') rest + 1
    else if Text.isBlank c then ignorable false rest + 1
    else if c = '#' then ignorable true rest + 1
    else 0

def skipIgnorable : Read Unit := do
  let reader ← get
  if reader.verbose then skip (ignorable false reader.rest)

/-- Moves over one character and what does not count after it; tells whether anything is
left. -/
def next : Read Bool := do
  if ← atEnd then return false
  skip 1
  if ← atEnd then return false
  skipIgnorable
  return !(← atEnd)

def skipText? (text : String) : Read Bool := do
  if text.toList.isPrefixOf (← get).rest then
    skip text.length
    return true
  else return false

def skipBlanks : Nat → Read Unit
  | 0 => return
  | fuel + 1 => do
    if (← peek?).any Text.isBlank then
      let _ ← next
      skipBlanks fuel

def digits : Nat → List Char → Read (List Char)
  | 0, taken => return taken
  | fuel + 1, taken => do
    match ← peek? with
    | some c =>
      if c.isDigit then
        let _ ← next
        digits fuel (taken ++ [c])
      else return taken
    | none => return taken

/-- A decimal of at most 32 bits. What is wrong with it is left for the caller to raise. -/
def decimal : Read (Except Fault Nat) := do
  let fuel := (← get).rest.length
  skip ((← get).rest.takeWhile Text.isBlank).length
  let start ← offset
  let taken ← digits fuel []
  let stop ← offset
  skipBlanks fuel
  let value := taken.foldl (fun n c => 10 * n + (c.toNat - 48)) 0
  return if taken.isEmpty then .error ⟨.countEmpty, ⟨start, stop⟩, none⟩
    else if value < Nat.pow 2 32 then .ok value
    else .error ⟨.decimalInvalid, ⟨start, stop⟩, none⟩

end Read
end AssetLint.Pattern
