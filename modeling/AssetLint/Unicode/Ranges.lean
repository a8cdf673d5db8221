import AssetLint.Text.Lines

/-!
Sets of code points as lists of inclusive ranges, read from a compact hexadecimal text. The
operations keep ranges in order and apart from each other; no bound of a range that they make
is a surrogate.
-/
namespace AssetLint.Unicode

/-- Inclusive ranges of code points. -/
abbrev Ranges := List (Nat × Nat)

def lastCode : Nat := 0x10FFFF

def hexDigit? (c : Char) : Option Nat :=
  let n := c.toNat
  if 48 ≤ n ∧ n ≤ 57 then some (n - 48)
  else if 65 ≤ n ∧ n ≤ 70 then some (n - 55)
  else if 97 ≤ n ∧ n ≤ 102 then some (n - 87)
  else none

def hexNumber? (digits : List Char) : Option Nat :=
  if digits.isEmpty then none
  else digits.foldl (fun value c => do return 16 * (← value) + (← hexDigit? c)) (some 0)

/-- The words of a text between spaces and line feeds. -/
def words (text : List Char) : List (List Char) :=
  ((Text.splitOn '\n' text).flatMap (Text.splitOn ' ')).filter fun word => !word.isEmpty

/-- The character after this one. -/
def following (n : Nat) : Nat :=
  if n = 0xD7FF then 0xE000 else n + 1

/-- The character before this one. -/
def preceding (n : Nat) : Nat :=
  if n = 0xE000 then 0xD7FF else n - 1

namespace Ranges

/-- Reads bounds such as `41-5A 5F`; a single bound stands for itself. -/
def ofText (text : String) : Ranges :=
  (words text.toList).filterMap fun item =>
    match Text.splitOn '-' item with
    | [low, high] => do return (← hexNumber? low, ← hexNumber? high)
    | _ => (hexNumber? item).map fun n => (n, n)

def holds (ranges : Ranges) (n : Nat) : Bool :=
  ranges.any fun range => range.1 ≤ n && n ≤ range.2

def contains (ranges : Ranges) (c : Char) : Bool :=
  ranges.holds c.toNat

/-- Adds a range to others in order, and joins it with those that it touches. -/
def insert (range : Nat × Nat) : Ranges → Ranges
  | [] => [range]
  | next :: rest =>
    if range.2 + 1 < next.1 then range :: next :: rest
    else if next.2 + 1 < range.1 then next :: insert range rest
    else insert (min range.1 next.1, max range.2 next.2) rest

/-- The same set in order, with no two ranges that touch. -/
def normalized (ranges : Ranges) : Ranges :=
  ranges.foldr insert []

def union (left right : Ranges) : Ranges :=
  normalized (left ++ right)

/-- What lies between the ranges after a code point and behind the last one. Where a range ends
before the surrogates and the next one starts after them, nothing is missing, and the answer
has the two characters there. -/
def gapsAfter (last : Nat) : Ranges → Ranges
  | [] => if last < lastCode then [(following last, lastCode)] else []
  | (first, next) :: rest =>
    let low := following last
    let high := preceding first
    (min low high, max low high) :: gapsAfter next rest

def complement : Ranges → Ranges
  | [] => [(0, lastCode)]
  | (first, last) :: rest =>
    if 0 < first then (0, preceding first) :: gapsAfter last rest else gapsAfter last rest

def intersection (left right : Ranges) : Ranges :=
  left.flatMap fun a =>
    right.filterMap fun b =>
      let low := max a.1 b.1
      let high := min a.2 b.2
      if low ≤ high then some (low, high) else none

/-- What is left of one range without the others, which are in order. -/
def without (range : Nat × Nat) : Ranges → Ranges
  | [] => [range]
  | other :: others =>
    if other.2 < range.1 then without range others
    else if range.2 < other.1 then [range]
    else
      let before := if range.1 < other.1 then [(range.1, preceding other.1)] else []
      if other.2 < range.2 then before ++ without (following other.2, range.2) others else before

def difference (left right : Ranges) : Ranges :=
  left.flatMap fun range => without range right

end Ranges
end AssetLint.Unicode
