import AssetLint.Pattern.Layout
import AssetLint.Pattern.Meaning

/-!
Searching a text for a pattern. Sets of positions are lists of truth values, one for each
position from zero to the length of the text, and an expression takes a set to the positions
that it can reach from there.
-/
namespace AssetLint.Pattern

abbrev Positions := List Bool

namespace Positions

def union (left right : Positions) : Positions :=
  List.zipWith or left right

/-- The positions after a character with the property. -/
def advance (positions : Positions) (text : List Char) (keep : Char → Bool) : Positions :=
  false :: List.zipWith (fun here c => here && keep c) positions text

/-- The neighbours of every position, from the character before the first. -/
def allNeighbours (before : Option Char) : List Char → List (Option Char × Option Char)
  | [] => [(before, none)]
  | c :: rest => (before, some c) :: allNeighbours (some c) rest

def restrict (text : List Char) (look : Look) (positions : Positions) : Positions :=
  List.zipWith (fun here around => here && look.holds around.1 around.2) positions
    (allNeighbours none text)

/-- Applies a step so many times, or until it changes nothing. -/
def iterate (step : Positions → Positions) : Nat → Positions → Positions
  | 0, positions => positions
  | count + 1, positions =>
    let after := step positions
    if after = positions then positions else iterate step count after

/-- Adds what a step reaches, so many times, or until nothing is new. -/
def closure (step : Positions → Positions) : Nat → Positions → Positions
  | 0, positions => positions
  | count + 1, positions =>
    let grown := positions.union (step positions)
    if grown = positions then positions else closure step count grown

end Positions

/-- The positions that can be reached from the given ones. -/
def Expression.reach (text : List Char) : Expression → Positions → Positions
  | empty, positions => positions
  | literal needle, positions =>
    needle.foldl (fun reached c => reached.advance text (· = c)) positions
  | set members, positions => positions.advance text members.contains
  | .look condition, positions => positions.restrict text condition
  | capture inner, positions => inner.reach text positions
  | .sequence first others, positions => others.reach text (first.reach text positions)
  | either first others, positions =>
    (first.reach text positions).union (others.reach text positions)
  | repetition inner least most _, positions =>
    let rounds :=
      match most with
      | some bound => bound - least
      | none => text.length + 1
    if most.any (· < least) then positions.map fun _ => false
    else
      Positions.closure (inner.reach text) rounds
        (Positions.iterate (inner.reach text) least positions)

/-- A pattern that can be searched for. -/
structure Compiled where
  source : String
  expression : Expression
  deriving DecidableEq, Repr

inductive CompileError where
  | faulty (fault : Fault) (pattern : String)
  | tooLarge
  deriving DecidableEq, Repr

def CompileError.message : CompileError → String
  | faulty fault pattern => fault.message pattern.toList
  | tooLarge => "Compiled regex exceeds size limit of " ++ toString sizeLimit ++ " bytes."

def compile (source : String) : Except CompileError Compiled := do
  let (expression, _) ← ((readTree source.toList).bind (Tree.expression {})).mapError
    fun fault => .faulty fault source
  if expression.isTooLarge then .error .tooLarge else return ⟨source, expression⟩

/-- Some part of the text matches. -/
def Compiled.matches (pattern : Compiled) (text : List Char) : Bool :=
  (pattern.expression.reach text (List.replicate (text.length + 1) true)).any id

end AssetLint.Pattern
