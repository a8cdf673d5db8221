import AssetLint.Pattern.Expression
import AssetLint.Pattern.Layout.Shared

/-!
How large the automata of an expression are. One reads the text forward and the other backward;
counted parts are written out, and so the automata of a short pattern may be too large to make.
-/
namespace AssetLint.Pattern

def sizeLimit : Nat := 10485760

/-- What an automaton is put together from, in the order of its states. -/
inductive Layout where
  | fixed (usage : Usage)
  | encoded (backward : Bool) (runs : List (List (Nat × Nat)))
  | both (first second : Layout)
  | copies (count : Nat) (part : Layout)
  deriving DecidableEq, Repr

namespace Layout

def states (count : Nat) : Layout :=
  .fixed ⟨count, 0⟩

/-- A state that goes on in several ways. -/
def branching (branches : Nat) : Layout :=
  .fixed ⟨1, branchSize * branches⟩

def followedBy : Layout → Layout → Layout
  | fixed first, fixed second => fixed (first.add second.states second.bytes)
  | first, second => both first second

def times (count : Nat) : Layout → Layout
  | fixed usage => fixed ⟨count * usage.states, count * usage.bytes⟩
  | part => copies count part

/-- Room that is enough even if no states are shared. -/
def bound : Layout → Nat
  | fixed usage => usage.total
  | encoded _ runs =>
    3 * stateSize +
      (runs.map fun run => branchSize + (stateSize + edgeSize) * run.length).foldl (· + ·) 0
  | both first second => first.bound + second.bound
  | copies count part => count * part.bound

/-- Repeats a step until there is no more room. -/
def repeatWithin (step : Usage → Usage) : Nat → Usage → Usage
  | 0, usage => usage
  | count + 1, usage =>
    if sizeLimit < usage.total then usage else repeatWithin step count (step usage)

/-- Adds what the layout takes, or enough of it to exceed the limit. -/
def place : Layout → Usage → Usage
  | fixed added, usage => usage.add added.states added.bytes
  | encoded backward runs, usage =>
    if backward then Shared.backward runs usage else Shared.forward runs usage
  | both first second, usage => second.place (first.place usage)
  | copies count part, usage => repeatWithin part.place count usage

def isTooLarge (layout : Layout) : Bool :=
  sizeLimit < layout.bound && sizeLimit < (layout.place {}).total

/-- The words by their first bytes. -/
def byFirst (words : List (List Nat)) : List (Nat × List (List Nat)) :=
  words.foldr
    (fun word groups =>
      match word with
      | [] => groups
      | first :: rest =>
        if groups.any fun group => group.1 = first then
          groups.map fun group =>
            if group.1 = first then (first, rest :: group.2) else group
        else (first, [rest]) :: groups)
    []

/-- Cuts at the words that are empty, and leaves out the parts without words. -/
def betweenEmpty : List (List Nat) → List (List (List Nat))
  | [] => []
  | [] :: words => betweenEmpty words
  | word :: words =>
    match words, betweenEmpty words with
    | (_ :: _) :: _, part :: parts => (word :: part) :: parts
    | _, parts => [word] :: parts

/-- A tree that reads one of some words, of which the earlier are preferred: where a word ends,
what was read before it is kept apart from what comes after it. A word that ends before anything
was read counts once. -/
def wordTree : Nat → List (List Nat) → Usage
  | 0, _ => {}
  | depth + 1, words =>
    let parts := betweenEmpty words
    let ends := (words.dropWhile List.isEmpty).countP List.isEmpty +
      if words.head?.any List.isEmpty then 1 else 0
    let node : Usage := ⟨1, branchSize * (parts.length + ends)⟩
    parts.foldl
      (fun usage part =>
        let groups := byFirst part
        let edges := if groups.length = 1 then 0 else edgeSize * groups.length
        groups.foldl
          (fun usage group =>
            if group.2.all List.isEmpty then usage
            else
              let below := wordTree depth group.2
              usage.add below.states below.bytes)
          (usage.add 1 edges))
      node

/-- The states of some words and a final one. -/
def ofWords (words : List (List Nat)) : Layout :=
  let depth := (words.map List.length).foldl max 0 + 1
  (states 1).followedBy (.fixed (wordTree depth words))

/-- Branches that come together again. -/
def joined : List Layout → Layout
  | [] => states 1
  | [only] => only
  | first :: second :: others =>
    let branches := others.length + 2
    let fork := (branching branches).followedBy (states 1)
    others.foldl followedBy ((first.followedBy second).followedBy fork)

end Layout

namespace Expression

def bytes (text : List Char) : List Nat :=
  text.flatMap fun c => Unicode.encode c.toNat

def word? (backward : Bool) : Expression → Option (List Nat)
  | literal text => some (if backward then (bytes text).reverse else bytes text)
  | _ => none

/-- The layout of an expression whose branches have the given layouts. -/
def layoutOf (backward : Bool) (expression : Expression) (branches : List Layout) : Layout :=
  match branches, expression.branches.mapM (word? backward) with
  | _ :: _ :: _, some words => .ofWords words
  | _, _ => .joined branches

/-- The layouts of the branches. -/
def layouts (backward : Bool) : Expression → List Layout
  | empty | look _ => [.states 1]
  | literal text => [.states (Text.byteLength text)]
  | set members =>
    if members.all fun range => range.2 < 0x80 then
      [.fixed ⟨2, edgeSize * members.length⟩]
    else [.encoded backward (members.flatMap Unicode.encodings)]
  | capture inner =>
    let layout := layoutOf backward inner (inner.layouts backward)
    if backward then [layout]
    else [((Layout.states 1).followedBy layout).followedBy (.states 1)]
  | sequence first others =>
    let first := layoutOf backward first (first.layouts backward)
    let others := layoutOf backward others (others.layouts backward)
    [if backward then others.followedBy first else first.followedBy others]
  | either first others => first.layouts backward ++ others.layouts backward
  | repetition inner least most _ =>
    let layout := layoutOf backward inner (inner.layouts backward)
    let optional := (Layout.branching 2).followedBy layout
    let required := if least = 0 then .states 1 else layout.times least
    match least, most with
    | 0, some 1 => [optional.followedBy (.states 1)]
    | 0, none =>
      if inner.leastLength?.any (0 < ·) then [optional]
      else [layout.followedBy (.fixed ⟨3, 4 * branchSize⟩)]
    | _, none => [required.followedBy (.branching 2)]
    | _, some bound =>
      if bound = least then [required]
      else
        [(required.followedBy (.states 1)).followedBy (optional.times (bound - least))]

/-- The whole automaton. Where matches can start anywhere, any bytes may come before them. -/
def automaton (backward : Bool) (expression : Expression) : Layout :=
  let anchored := if backward then expression.atTextEnd else expression.atTextStart
  let before : Layout :=
    if anchored then .states 1 else .fixed ⟨3, edgeSize + 2 * branchSize⟩
  let whole := layoutOf backward expression.capture (expression.capture.layouts backward)
  (before.followedBy whole).followedBy (.states 1)

def isTooLarge (expression : Expression) : Bool :=
  (expression.automaton false).isTooLarge || (expression.automaton true).isTooLarge

end Expression
end AssetLint.Pattern
