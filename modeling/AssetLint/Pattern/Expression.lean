import AssetLint.Unicode.Class

/-!
What patterns mean. Expressions are kept in a simple form, on which their size depends: the
functions that build them flatten sequences and alternatives, join literals, make one set of
alternatives that are sets, and put a common beginning of alternatives before them.
-/
namespace AssetLint.Pattern

open Unicode (Ranges)

/-- Conditions on the characters next to a position. -/
inductive Look where
  | textStart
  | textEnd
  | lineStart
  | lineEnd
  /-- Line ends are also carriage returns, alone or before a line feed. -/
  | anyLineStart
  | anyLineEnd
  | boundary (word : Ranges)
  | notBoundary (word : Ranges)
  | wordStart (word : Ranges)
  | wordEnd (word : Ranges)
  | wordStartHalf (word : Ranges)
  | wordEndHalf (word : Ranges)
  deriving DecidableEq, Repr

inductive Expression where
  | empty
  /-- At least one character, all in this order. -/
  | literal (text : List Char)
  | set (members : Ranges)
  | look (condition : Look)
  | capture (inner : Expression)
  /-- At least so many times, and at most so many if there is a bound. -/
  | repetition (inner : Expression) (least : Nat) (most : Option Nat) (greedy : Bool)
  /-- The first part is no sequence itself. -/
  | sequence (first others : Expression)
  /-- The first branch is no choice itself. -/
  | either (first others : Expression)
  deriving DecidableEq, Repr

def isWord (word : Ranges) (c : Option Char) : Bool :=
  c.any word.contains

/-- Whether the condition holds between two neighbours, absent at the ends of the text. -/
def Look.holds (before after : Option Char) : Look → Bool
  | textStart => before.isNone
  | textEnd => after.isNone
  | lineStart => before.all (· = '\n')
  | lineEnd => after.all (· = '\n')
  | anyLineStart =>
    before.isNone || before = some '\n' || (before = some '\r' && after ≠ some '\n')
  | anyLineEnd =>
    after.isNone || after = some '\r' || (after = some '\n' && before ≠ some '\r')
  | boundary word => isWord word before != isWord word after
  | notBoundary word => isWord word before == isWord word after
  | wordStart word => !isWord word before && isWord word after
  | wordEnd word => isWord word before && !isWord word after
  | wordStartHalf word => !isWord word before
  | wordEndHalf word => !isWord word after

namespace Expression

/-- Matches nothing. -/
def never : Expression := .set []

/-- Every match is empty, and there may be one. -/
def onlyEmpty : Expression → Bool
  | empty | look _ => true
  | literal _ | set _ => false
  | capture inner => inner.onlyEmpty
  | repetition inner _ most _ => most.isSome && inner.onlyEmpty
  | sequence first others | either first others => first.onlyEmpty && others.onlyEmpty

/-- Length in bytes of the shortest match, if there can be one at all. A part that cannot match
leaves the whole without a length, even as a branch or where it may be left out. -/
def leastLength? : Expression → Option Nat
  | empty | look _ => some 0
  | literal text => some (Text.byteLength text)
  | set members => members.head?.map fun range => (Char.ofNat range.1).utf8Size
  | capture inner => inner.leastLength?
  | repetition inner least _ _ => inner.leastLength?.map fun length => length * least
  | sequence first others => do return (← first.leastLength?) + (← others.leastLength?)
  | either first others => do return min (← first.leastLength?) (← others.leastLength?)

/-- Every match starts at the start of the text, as the conditions before the first character
show. -/
def atTextStart : Expression → Bool
  | look condition => condition = .textStart
  | capture inner => inner.atTextStart
  | repetition inner least _ _ => 0 < least && inner.atTextStart
  | sequence first others => first.atTextStart || (first.onlyEmpty && others.atTextStart)
  | either first others => first.atTextStart && others.atTextStart
  | _ => false

/-- Every match ends at the end of the text, as the conditions after the last character show. -/
def atTextEnd : Expression → Bool
  | look condition => condition = .textEnd
  | capture inner => inner.atTextEnd
  | repetition inner least _ _ => 0 < least && inner.atTextEnd
  | sequence first others => others.atTextEnd || (others.onlyEmpty && first.atTextEnd)
  | either first others => first.atTextEnd && others.atTextEnd
  | _ => false

def captures : Expression → Bool
  | capture _ => true
  | repetition inner _ _ _ => inner.captures
  | sequence first others | either first others => first.captures || others.captures
  | _ => false

/-- Count of the parts. -/
def weight : Expression → Nat
  | capture inner | repetition inner _ _ _ => inner.weight + 1
  | sequence first others | either first others => first.weight + others.weight + 1
  | _ => 1

/-- The parts of a sequence; anything else is the only part, and what is empty has none. -/
def items : Expression → List Expression
  | empty => []
  | sequence first others => first.items ++ others.items
  | expression => [expression]

def branches : Expression → List Expression
  | either first others => first.branches ++ others.branches
  | expression => [expression]

def ofItems : List Expression → Expression
  | [] => empty
  | [item] => item
  | item :: others => sequence item (ofItems others)

def ofBranches : List Expression → Expression
  | [] => never
  | [branch] => branch
  | branch :: others => either branch (ofBranches others)

/-- Makes one literal of literals next to each other. -/
def joinLiterals : List Expression → List Expression
  | [] => []
  | literal text :: items =>
    match joinLiterals items with
    | literal next :: others => literal (text ++ next) :: others
    | others => literal text :: others
  | item :: items => item :: joinLiterals items

def inSequence (parts : List Expression) : Expression :=
  ofItems (joinLiterals (parts.flatMap items))

/-- One character of a set whose ranges are in order. -/
def ofSet (members : Ranges) : Expression :=
  match members with
  | [(low, high)] => if low = high then literal [Char.ofNat low] else set members
  | _ => set members

def singleChar? : Expression → Option (Nat × Nat)
  | literal [c] => some (c.toNat, c.toNat)
  | _ => none

def members? : Expression → Option Ranges
  | set members => some members
  | _ => none

/-- The set that the branches are together, if each is one character or each is a set. -/
def setOfBranches? (branches : List Expression) : Option Ranges :=
  ((branches.mapM singleChar?).or ((branches.mapM members?).map List.flatten)).map
    Ranges.normalized

/-- How many items the two begin with alike. Two groups that capture are never alike. -/
def commonCount : List Expression → List Expression → Nat
  | first :: firsts, second :: seconds =>
    if first = second ∧ !first.captures then commonCount firsts seconds + 1 else 0
  | _, _ => 0

/-- A choice of branches that are no choices. A beginning that all share comes first where every
branch is a sequence. -/
def ofFlatBranches : Nat → List Expression → Expression
  | 0, branches => ofBranches branches
  | fuel + 1, branches =>
    match branches, setOfBranches? branches with
    | [], _ | [_], _ => ofBranches branches
    | _, some members => ofSet members
    | first :: others, none =>
      let shared := (others.map fun branch => commonCount first.items branch.items).foldl min
        first.items.length
      if shared = 0 ∨ branches.any (fun branch => branch.items.length < 2) then
        ofBranches branches
      else
        let rests := branches.map fun branch => ofItems (branch.items.drop shared)
        inSequence (first.items.take shared ++
          [ofFlatBranches fuel (rests.flatMap Expression.branches)])

def oneOf (parts : List Expression) : Expression :=
  let flat := parts.flatMap branches
  ofFlatBranches ((flat.map weight).foldl (· + ·) 0) flat

/-- What only matches empty is not repeated more than once. -/
def repeated (inner : Expression) (least : Nat) (most : Option Nat) (greedy : Bool) :
    Expression :=
  let (least, most) :=
    if inner.onlyEmpty then (min least 1, some (most.elim 1 (min 1))) else (least, most)
  if most = some 0 then empty
  else if least = 1 ∧ most = some 1 then inner
  else repetition inner least most greedy

end Expression

end AssetLint.Pattern
