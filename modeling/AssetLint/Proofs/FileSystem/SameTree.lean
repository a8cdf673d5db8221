import Mathlib.Data.List.Forall2
import AssetLint.Proofs.FileSystem.Reachable

/-!
File systems that differ in nothing but what their files hold and who may read them. No look-up
reads a file, so paths lead to the same places in both (`SameTree.locate_eq`,
`SameTree.canonical_eq`), and a directory has the same listing in both up to its order
(`SameTree.listAt_cases`).
-/
namespace AssetLint

/-- The same directory, the same link, or two files, whatever they hold and whoever may read
them. -/
inductive Node.Alike : Node → Node → Prop
  | file {content other : ByteArray} {mode bits : Nat} :
    Alike (.file content mode) (.file other bits)
  | directory {mode : Nat} : Alike (.directory mode) (.directory mode)
  | link {target : Path} : Alike (.link target) (.link target)

namespace FileSystem

/-- The same directories with the same permissions and names in them, and the same links. -/
structure SameTree (left right : FileSystem) : Prop where
  workingDirectory : left.workingDirectory = right.workingDirectory
  guarded : left.guarded = right.guarded
  node : ∀ location, Option.Rel Node.Alike (left.node? location) (right.node? location)
  entries : ∀ location, (left.entriesAt location).Perm (right.entriesAt location)

namespace SameTree

variable {left right : FileSystem}

/-- Only two files can differ. -/
theorem node_cases (same : left.SameTree right) (location : Location) :
    left.node? location = right.node? location ∨
      ∃ content mode other bits, left.node? location = some (.file content mode) ∧
        right.node? location = some (.file other bits) := by
  have pair := same.node location
  generalize left.node? location = node, right.node? location = twin at pair ⊢
  cases pair with
  | none => exact .inl rfl
  | some alike =>
    cases alike with
    | file => exact .inr ⟨_, _, _, _, rfl, rfl⟩
    | directory => exact .inl rfl
    | link => exact .inl rfl

theorem isDirectoryAt_eq (same : left.SameTree right) (location : Location) :
    left.isDirectoryAt location = right.isDirectoryAt location := by
  unfold isDirectoryAt
  rcases same.node_cases location with equal | ⟨_, _, _, _, here, there⟩
  · rw [equal]
  · rw [here, there]

theorem allows_eq (same : left.SameTree right) (mode bit : Nat) :
    left.allows mode bit = right.allows mode bit := by
  unfold allows
  rw [same.guarded]

theorem searchable_eq (same : left.SameTree right) (location : Location) :
    left.searchable location = right.searchable location := by
  unfold searchable
  rcases same.node_cases location with equal | ⟨_, _, _, _, here, there⟩
  · simp only [equal, same.allows_eq]
  · rw [here, there]

theorem searchableFromRoot_eq (same : left.SameTree right) (location : Location) :
    left.searchableFromRoot location = right.searchableFromRoot location := by
  induction location with
  | nil => exact same.searchable_eq []
  | cons name outer ih => simp only [searchableFromRoot, ih, same.searchable_eq]

theorem enterDirectory_eq (same : left.SameTree right) :
    left.enterDirectory = right.enterDirectory := by
  funext place step
  cases step with
  | mustBeDirectory => rfl
  | here => exact same.searchable_eq place
  | up => exact same.searchable_eq place
  | name text => exact same.searchable_eq place

theorem enterFromRoot_eq (same : left.SameTree right) :
    left.enterFromRoot = right.enterFromRoot := by
  funext place step
  cases step with
  | name text => exact same.searchableFromRoot_eq place
  | here => rfl
  | up => rfl
  | mustBeDirectory => rfl

/-- A look-up tells directories, links and other nodes apart, and looks at nothing else. -/
theorem looksAlike (same : left.SameTree right) : left.LooksAlike right (fun _ => False) where
  workingDirectory := same.workingDirectory
  directory := fun location => (same.isDirectoryAt_eq location).symm
  node := by
    intro location
    refine .inr ?_
    rcases same.node_cases location with equal | ⟨_, _, _, _, here, there⟩
    · rw [equal]
    · rw [here, there]
      rfl

theorem lookup_eq (same : left.SameTree right) (enter : Location → Step → Except IoError Unit)
    (path : Path) : left.lookup enter path = right.lookup enter path :=
  (same.looksAlike.lookup_eq (fun _ _ _ => rfl) fun _ _ => not_false).symm

theorem locate_eq (same : left.SameTree right) (path : Path) :
    left.locate path = right.locate path := by
  unfold locate
  rw [same.enterDirectory_eq, same.lookup_eq]

theorem canonical_eq (same : left.SameTree right) (path : Path) :
    left.canonical path = right.canonical path := by
  unfold canonical
  rw [same.enterFromRoot_eq, same.lookup_eq]

theorem exists_eq (same : left.SameTree right) (path : Path) :
    left.exists? path = right.exists? path := by
  unfold exists?
  rw [same.locate_eq]

theorem isDirectory_eq (same : left.SameTree right) (path : Path) :
    left.isDirectory path = right.isDirectory path := by
  unfold isDirectory
  rw [same.locate_eq]
  simp only [same.isDirectoryAt_eq]

/-- Both listings of a directory fail with one error, or both give the same entries. -/
theorem listAt_cases (same : left.SameTree right) (location : Location) :
    (∃ error, left.listAt location = .error error ∧ right.listAt location = .error error) ∨
      ∃ entries others, left.listAt location = .ok entries ∧
        right.listAt location = .ok others ∧ entries.Perm others := by
  unfold listAt
  rcases same.node_cases location with equal | ⟨_, _, _, _, here, there⟩
  · simp only [equal, same.allows_eq]
    split
    · split
      · exact .inr ⟨_, _, rfl, rfl, same.entries location⟩
      · exact .inl ⟨_, rfl, rfl⟩
    · exact .inl ⟨_, rfl, rfl⟩
    · exact .inl ⟨_, rfl, rfl⟩
  · rw [here, there]
    exact .inl ⟨_, rfl, rfl⟩

/-- A path to the same node has the same text. -/
theorem readText_eq (same : left.SameTree right) {path : Path}
    (node : ∀ location, left.locate path = .ok location →
      left.node? location = right.node? location) :
    left.readText path = right.readText path := by
  unfold readText
  rw [← same.locate_eq path]
  cases located : left.locate path with
  | error error => rfl
  | ok location =>
    simp only [bind, Except.bind, node location located, same.allows_eq]

/-- It is enough that the nodes are alike one by one. -/
theorem of_nodes {nodes : List (Location × Node)}
    (alike : List.Forall₂ (fun entry other => entry.1 = other.1 ∧ entry.2.Alike other.2)
      left.nodes nodes) : left.SameTree { left with nodes } where
  workingDirectory := rfl
  guarded := rfl
  node := by
    intro location
    unfold node?
    by_cases root : location = []
    · rw [if_pos root, if_pos root]
      exact .some .directory
    · rw [if_neg root, if_neg root]
      dsimp only
      generalize left.nodes = before at alike ⊢
      induction alike with
      | nil => exact .none
      | @cons entry other _ _ pair _ ih =>
        obtain ⟨place, alike⟩ := pair
        rw [List.find?_cons, List.find?_cons, ← place]
        by_cases here : entry.1 = location
        · simpa only [here, decide_true] using .some alike
        · simpa only [here, decide_false] using ih
  entries := by
    intro location
    have names : left.namesAt location = { left with nodes }.namesAt location := by
      unfold namesAt
      dsimp only
      generalize left.nodes = before at alike ⊢
      induction alike with
      | nil => rfl
      | cons pair _ ih => rw [List.filterMap_cons, List.filterMap_cons, pair.1, ih]
    unfold entriesAt
    rw [names]

end SameTree
end FileSystem
end AssetLint
