import AssetLint.Unicode.Encoding

/-!
States for the encodings of a set that goes beyond ASCII. Read forward, equal ends of encodings
share their states; read backward, equal beginnings do. What can be shared is looked up in a
table with one entry for each slot, where a later entry replaces an earlier one, so that the
count of states depends on the number of the first.
-/
namespace AssetLint.Pattern

/-- States and further bytes that an automaton takes. -/
structure Usage where
  states : Nat := 0
  bytes : Nat := 0
  deriving DecidableEq, Repr

def stateSize : Nat := 32
def edgeSize : Nat := 8
def branchSize : Nat := 4

def Usage.total (usage : Usage) : Nat :=
  stateSize * usage.states + usage.bytes

def Usage.add (usage : Usage) (states bytes : Nat) : Usage :=
  ⟨usage.states + states, usage.bytes + bytes⟩

namespace Shared

/-- A table by slot numbers, as a tree over their binary digits. -/
inductive Slots (α : Type) where
  | empty
  | entry (value : α)
  | fork (even odd : Slots α)

def depth : Nat := 14

def Slots.get? {α : Type} : Nat → Nat → Slots α → Option α
  | 0, _, .entry value => some value
  | digits + 1, slot, .fork even odd =>
    if slot % 2 = 0 then even.get? digits (slot / 2) else odd.get? digits (slot / 2)
  | _, _, _ => none

def Slots.set {α : Type} (value : α) : Nat → Nat → Slots α → Slots α
  | 0, _, _ => .entry value
  | digits + 1, slot, slots =>
    let (even, odd) :=
      match slots with
      | .fork even odd => (even, odd)
      | _ => (.empty, .empty)
    if slot % 2 = 0 then .fork (even.set value digits (slot / 2)) odd
    else .fork even (odd.set value digits (slot / 2))

/-- The slot of a row of numbers, mixed into a word of 64 bits one after another. -/
def slotOf (slots : UInt64) (numbers : List Nat) : Nat :=
  let mixed := numbers.foldl (fun (word : UInt64) n => (word ^^^ n.toUInt64) * 1099511628211)
    14695981039346656037
  (mixed % slots).toNat

structure Edge where
  low : Nat
  high : Nat
  target : Nat
  deriving DecidableEq, Repr

/-- The states so far, and those that can be shared by what they were made from. -/
structure Table (α : Type) where
  usage : Usage
  slots : Slots (α × Nat) := .empty

/-- The state for these edges, a new one if the table has none. -/
def Table.node (edges : List Edge) (table : Table (List Edge)) : Nat × Table (List Edge) :=
  let slot := slotOf 10000 (edges.flatMap fun edge => [edge.low, edge.high, edge.target])
  let fresh : Nat × Table (List Edge) :=
    (table.usage.states,
      { usage := table.usage.add 1 (edgeSize * edges.length)
        slots := table.slots.set (edges, table.usage.states) depth slot })
  match table.slots.get? depth slot with
  | some (same, state) => if same = edges then (state, table) else fresh
  | none => fresh

/-- A node that may still get edges, and the bytes of its last edge, whose target is open. -/
structure OpenNode where
  /-- The last one first. -/
  edges : List Edge := []
  low : Nat
  high : Nat

/-- Makes the states of open nodes that follow one another, and answers the first. -/
def closeAll (final : Nat) : List OpenNode → Table (List Edge) → Nat × Table (List Edge)
  | [], table => (final, table)
  | node :: deeper, table =>
    let (target, table) := closeAll final deeper table
    table.node (⟨node.low, node.high, target⟩ :: node.edges).reverse

/-- Adds the encodings of a run. Open nodes that begin with the same bytes are kept. -/
def extend (final : Nat) :
    List (Nat × Nat) → List OpenNode → Table (List Edge) → List OpenNode × Table (List Edge)
  | (low, high) :: run, node :: deeper, table =>
    if node.low = low ∧ node.high = high then
      let (deeper, table) := extend final run deeper table
      (node :: deeper, table)
    else
      let (target, table) := closeAll final deeper table
      let edges := ⟨node.low, node.high, target⟩ :: node.edges
      (⟨edges, low, high⟩ :: run.map fun bytes => ⟨[], bytes.1, bytes.2⟩, table)
  | run, [], table => (run.map fun bytes => ⟨[], bytes.1, bytes.2⟩, table)
  | [], nodes, table => (nodes, table)

/-- A final state, and the states before it. -/
def forward (runs : List (List (Nat × Nat))) (usage : Usage) : Usage :=
  let start : List OpenNode × Table (List Edge) := ([], { usage := usage.add 1 0 })
  let (nodes, table) := runs.foldl (fun state run => extend usage.states run state.1 state.2) start
  (closeAll usage.states nodes table).2.usage

/-- The state that reads bytes of a range and goes on, a new one if the table has none. -/
def Table.step (table : Table Edge) (edge : Edge) : Nat × Table Edge :=
  let slot := slotOf 1000 [edge.target, edge.low, edge.high]
  let fresh : Nat × Table Edge :=
    (table.usage.states,
      { usage := table.usage.add 1 0
        slots := table.slots.set (edge, table.usage.states) depth slot })
  match table.slots.get? depth slot with
  | some (same, state) => if same = edge then (state, table) else fresh
  | none => fresh

/-- A branch for every run, which all lead to one final state. -/
def backward (runs : List (List (Nat × Nat))) (usage : Usage) : Usage :=
  let final := usage.states + 1
  let start : Table Edge := { usage := usage.add 2 (branchSize * runs.length) }
  let table := runs.foldl
    (fun table run =>
      (run.foldl (fun state bytes => state.2.step ⟨bytes.1, bytes.2, state.1⟩) (final, table)).2)
    start
  table.usage

end Shared
end AssetLint.Pattern
