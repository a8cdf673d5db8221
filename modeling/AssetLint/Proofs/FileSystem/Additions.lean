import Mathlib.Data.List.Basic
import AssetLint.Proofs.FileSystem.Dangling

/-!
File systems with further files. A look-up that does not fail for want of an entry goes the same way
with them (`AddsFiles.locate_eq`, `AddsFiles.canonical_eq`), and one that comes to something else
comes to an added file (`AddsFiles.locate_cases`). So no path becomes one of a directory
(`AddsFiles.isDirectory_eq`), and a directory has the same listing up to its order and the names of
added files (`AddsFiles.listAt_cases`).
-/
namespace AssetLint.FileSystem

/-- The second file system is the first with files at places where nothing was. A directory is
listed as before, but with names of added files in between. -/
structure AddsFiles (left right : FileSystem) (added : List Location) : Prop where
  workingDirectory : left.workingDirectory = right.workingDirectory
  guarded : left.guarded = right.guarded
  kept : ∀ location, location ∉ added → right.node? location = left.node? location
  absent : ∀ location ∈ added, left.node? location = none
  present : ∀ location ∈ added, ∃ content mode, right.node? location = some (.file content mode)
  listed : ∀ location, ∃ names : List String, (∀ name ∈ names, name :: location ∈ added) ∧
    (right.entriesAt location).Perm (left.entriesAt location ++ names.map .ok)

namespace AddsFiles

variable {left right : FileSystem} {added : List Location}

theorem not_mem_of_isSome (adds : left.AddsFiles right added) {location : Location}
    (there : (left.node? location).isSome = true) : location ∉ added := by
  intro member
  rw [adds.absent location member] at there
  cases there

/-- Where there is a node it is the same, and other places have none or an added file. -/
theorem node?_eq (adds : left.AddsFiles right added) {location : Location} {node : Node}
    (entry : left.node? location = some node) : right.node? location = some node := by
  rw [adds.kept location (adds.not_mem_of_isSome (by rw [entry]; rfl)), entry]

theorem isDirectoryAt_eq (adds : left.AddsFiles right added) (location : Location) :
    right.isDirectoryAt location = left.isDirectoryAt location := by
  unfold isDirectoryAt
  by_cases member : location ∈ added
  · obtain ⟨content, mode, entry⟩ := adds.present location member
    rw [entry, adds.absent location member]
  · rw [adds.kept location member]

theorem allows_eq (adds : left.AddsFiles right added) (mode bit : Nat) :
    right.allows mode bit = left.allows mode bit := by
  unfold allows
  rw [adds.guarded]

theorem searchable_eq (adds : left.AddsFiles right added) {location : Location}
    (found : left.searchable location ≠ .error .notFound) :
    right.searchable location = left.searchable location := by
  unfold searchable at found ⊢
  cases entry : left.node? location with
  | none =>
    rw [entry] at found
    exact absurd rfl found
  | some node =>
    rw [adds.node?_eq entry]
    simp only [adds.allows_eq]

theorem searchableFromRoot_eq (adds : left.AddsFiles right added) {location : Location}
    (found : left.searchableFromRoot location ≠ .error .notFound) :
    right.searchableFromRoot location = left.searchableFromRoot location := by
  induction location with
  | nil => exact adds.searchable_eq found
  | cons name outer ih =>
    simp only [searchableFromRoot, bind, Except.bind] at found ⊢
    cases above : left.searchableFromRoot outer with
    | error error =>
      rw [above] at found
      rw [ih (by rw [above]; exact found), above]
    | ok _ =>
      rw [above] at found
      rw [ih (by simp [above]), above]
      exact adds.searchable_eq found

theorem enterDirectory_eq (adds : left.AddsFiles right added) {place : Location} {step : Step}
    (found : left.enterDirectory place step ≠ .error .notFound) :
    right.enterDirectory place step = left.enterDirectory place step := by
  cases step with
  | mustBeDirectory => rfl
  | here => exact adds.searchable_eq found
  | up => exact adds.searchable_eq found
  | name text => exact adds.searchable_eq found

theorem enterFromRoot_eq (adds : left.AddsFiles right added) {place : Location} {step : Step}
    (found : left.enterFromRoot place step ≠ .error .notFound) :
    right.enterFromRoot place step = left.enterFromRoot place step := by
  cases step with
  | name text => exact adds.searchableFromRoot_eq found
  | here => rfl
  | up => rfl
  | mustBeDirectory => rfl

theorem looksAlike (adds : left.AddsFiles right added) :
    left.LooksAlike right (· = .notFound) where
  workingDirectory := adds.workingDirectory
  directory := adds.isDirectoryAt_eq
  node := by
    intro location
    by_cases member : location ∈ added
    · exact .inl ⟨adds.absent location member, rfl⟩
    · rw [adds.kept location member]
      exact .inr rfl

/-- A look-up that does not come to a place where nothing is comes to no added file. -/
theorem lookup_eq (adds : left.AddsFiles right added)
    {enter other : Location → Step → Except IoError Unit}
    (agree : ∀ {place step}, enter place step ≠ .error .notFound →
      other place step = enter place step)
    {path : Path} (found : left.lookup enter path ≠ .error .notFound) :
    right.lookup other path = left.lookup enter path :=
  adds.looksAlike.lookup_eq (fun _ _ ends => agree fun missing => ends _ missing rfl)
    fun _ failed same => found (failed.trans (congrArg _ same))

theorem locate_eq (adds : left.AddsFiles right added) {path : Path}
    (found : left.locate path ≠ .error .notFound) : right.locate path = left.locate path :=
  adds.lookup_eq adds.enterDirectory_eq found

theorem canonical_eq (adds : left.AddsFiles right added) {path : Path}
    (found : left.canonical path ≠ .error .notFound) :
    right.canonical path = left.canonical path :=
  adds.lookup_eq adds.enterFromRoot_eq found

theorem isDirectoryAt_of_mem (adds : left.AddsFiles right added) {location : Location}
    (member : location ∈ added) : right.isDirectoryAt location = false := by
  obtain ⟨content, mode, entry⟩ := adds.present location member
  unfold isDirectoryAt
  rw [entry]

/-- Nothing is beyond a file. -/
theorem eq_of_follows_of_mem (adds : left.AddsFiles right added) {links : Nat}
    {place goal : Location} {all : List Step} (member : place ∈ added)
    (route : right.Follows (CanTake right.enterDirectory) links place all goal) : goal = place := by
  have outside := adds.isDirectoryAt_of_mem member
  cases route with
  | done => rfl
  | @next _ _ step _ _ _ _ _ allowed taken _ =>
    have from_ := onDirectory_of_canTake allowed
    cases taken with
    | mustBeDirectory inside => cases outside.symm.trans inside
    | here => cases outside.symm.trans from_
    | up => cases outside.symm.trans from_
    | enter _ _ => cases outside.symm.trans from_
    | link _ => cases outside.symm.trans from_

theorem canTake_of_right (adds : left.AddsFiles right added) {place : Location} {step : Step}
    (allowed : CanTake right.enterDirectory place step) :
    CanTake left.enterDirectory place step := by
  refine ⟨?_, allowed.2⟩
  have from_ : left.OnDirectory place step := by
    have there := onDirectory_of_canTake allowed
    cases step with
    | mustBeDirectory => trivial
    | here => exact (adds.isDirectoryAt_eq place).symm.trans there
    | up => exact (adds.isDirectoryAt_eq place).symm.trans there
    | name text => exact (adds.isDirectoryAt_eq place).symm.trans there
  rw [← adds.enterDirectory_eq (enterDirectory_ne_notFound from_), allowed.1]

/-- A step leads where it led, or to an added file. -/
theorem next_cases (adds : left.AddsFiles right added) {place middle : Location} {step : Step}
    {extra : List Step} {cost : Nat} (taken : right.Next place step middle extra cost) :
    left.Next place step middle extra cost ∨ middle ∈ added := by
  cases taken with
  | here => exact .inl .here
  | up => exact .inl .up
  | mustBeDirectory inside =>
    exact .inl (.mustBeDirectory ((adds.isDirectoryAt_eq place).symm.trans inside))
  | @enter text _ entry plain =>
    by_cases member : text :: place ∈ added
    · exact .inr member
    · exact .inl (.enter ((adds.kept _ member).symm.trans entry) plain)
  | @link text _ entry =>
    by_cases member : text :: place ∈ added
    · obtain ⟨_, _, file⟩ := adds.present _ member
      cases entry.symm.trans file
    · exact .inl (.link ((adds.kept _ member).symm.trans entry))

theorem follows_cases (adds : left.AddsFiles right added) {links : Nat} {place goal : Location}
    {all : List Step}
    (route : right.Follows (CanTake right.enterDirectory) links place all goal) :
    left.Follows (CanTake left.enterDirectory) links place all goal ∨ goal ∈ added := by
  induction route with
  | done => exact .inl .done
  | next allowed taken further ih =>
    rcases adds.next_cases taken with same | member
    · exact ih.imp_left (.next (adds.canTake_of_right allowed) same)
    · exact .inr (adds.eq_of_follows_of_mem member further ▸ member)

/-- What a look-up finds, it finds without the added files, unless it is one of them. -/
theorem locate_cases (adds : left.AddsFiles right added) {path : Path} {goal : Location}
    (found : right.locate path = .ok goal) : left.locate path = .ok goal ∨ goal ∈ added := by
  obtain ⟨clean, filled, short, route⟩ := lookup_eq_ok_iff.1 found
  unfold start at route
  rw [← adds.workingDirectory] at route
  exact (adds.follows_cases route).imp_left
    fun route => lookup_eq_ok_iff.2 ⟨clean, filled, short, route⟩

/-- No path becomes one of a directory. -/
theorem isDirectory_eq (adds : left.AddsFiles right added) (path : Path) :
    right.isDirectory path = left.isDirectory path := by
  unfold isDirectory
  by_cases missing : left.locate path = .error .notFound
  · rw [missing]
    cases found : right.locate path with
    | error _ => rfl
    | ok goal =>
      rcases adds.locate_cases found with located | member
      · cases missing.symm.trans located
      · exact adds.isDirectoryAt_of_mem member
  · rw [adds.locate_eq missing]
    cases left.locate path with
    | error _ => rfl
    | ok goal => exact adds.isDirectoryAt_eq goal

/-- A path is there as before unless it names an added file. -/
theorem exists_eq (adds : left.AddsFiles right added) {path : Path}
    (apart : ∀ location ∈ added, right.locate path ≠ .ok location) :
    right.exists? path = left.exists? path := by
  unfold exists?
  by_cases missing : left.locate path = .error .notFound
  · rw [missing]
    cases found : right.locate path with
    | error _ => rfl
    | ok goal =>
      rcases adds.locate_cases found with located | member
      · cases missing.symm.trans located
      · exact absurd found (apart goal member)
  · rw [adds.locate_eq missing]

/-- Both listings of a directory fail with one error, or that with the further files gives names
of them besides. -/
theorem listAt_cases (adds : left.AddsFiles right added) {location : Location}
    (inside : left.isDirectoryAt location = true) :
    (∃ error, left.listAt location = .error error ∧ right.listAt location = .error error) ∨
      ∃ entries others, ∃ names : List String, left.listAt location = .ok entries ∧
        right.listAt location = .ok others ∧ (∀ name ∈ names, name :: location ∈ added) ∧
        others.Perm (entries ++ names.map .ok) := by
  unfold isDirectoryAt at inside
  unfold listAt
  split at inside
  · next mode entry =>
    rw [entry, adds.node?_eq entry]
    simp only [adds.allows_eq]
    split
    · obtain ⟨names, among, perm⟩ := adds.listed location
      exact .inr ⟨_, _, names, rfl, rfl, among, perm⟩
    · exact .inl ⟨_, rfl, rfl⟩
  · cases inside

/-- A path to a node that was there has the same text. -/
theorem readText_eq (adds : left.AddsFiles right added) {path : Path}
    (found : left.locate path ≠ .error .notFound)
    (there : ∀ location, left.locate path = .ok location → (left.node? location).isSome = true) :
    right.readText path = left.readText path := by
  unfold readText
  rw [adds.locate_eq found]
  cases located : left.locate path with
  | error error => rfl
  | ok location =>
    obtain ⟨node, entry⟩ := Option.isSome_iff_exists.1 (there location located)
    simp only [bind, Except.bind, entry, adds.node?_eq entry, adds.allows_eq]

/-- What was listed in a directory reads the same, under any path of the directory. -/
theorem readText_join_eq (adds : left.AddsFiles right added) (formed : left.WellFormed)
    (whole : left.LinksLead) {path : Path} {directory : Location} {name : String}
    (located : left.locate path = .ok directory) (inside : left.isDirectoryAt directory = true)
    (member : name ∈ left.namesAt directory) :
    right.readText (path.join ⟨name⟩) = left.readText (path.join ⟨name⟩) := by
  refine adds.readText_eq
    (formed.locate_join_ne_notFound located inside member (whole directory name)) ?_
  intro goal found
  obtain ⟨_, route⟩ := leads_of_locate_join (formed.isFileName member) located found
  exact formed.isSome_node?_of_follows route (isSome_node?_of_isDirectoryAt inside)

/-- An added file was no directory under any path of its own directory. -/
theorem isDirectory_join_of_mem (adds : left.AddsFiles right added) {path : Path}
    {directory : Location} {name : String} (proper : IsFileName name)
    (located : left.locate path = .ok directory) (member : name :: directory ∈ added) :
    left.isDirectory (path.join ⟨name⟩) = false := by
  have nothing := adds.absent _ member
  unfold isDirectory
  cases found : left.locate (path.join ⟨name⟩) with
  | error _ => rfl
  | ok goal =>
    obtain ⟨_, route⟩ := leads_of_locate_join proper located found
    cases route with
    | next _ taken _ =>
      cases taken with
      | enter entry _ => cases nothing.symm.trans entry
      | link entry => cases nothing.symm.trans entry

section

variable {nodes : List (Location × Node)} {location : Location}

theorem node?_of_filter (kept : nodes.filter (fun entry => entry.1 ∉ added) = left.nodes)
    (apart : location ∉ added) : { left with nodes }.node? location = left.node? location := by
  unfold node?
  rw [← kept, List.find?_filter]
  congr 2
  refine congrArg (nodes.find? ·) (funext fun entry => ?_)
  by_cases here : entry.1 = location
  · simp [here, apart]
  · simp [here]

theorem exists_node?_of_mem (inside : location ≠ [])
    (present : ∃ entry ∈ nodes, entry.1 = location) :
    ∃ node, (location, node) ∈ nodes ∧ { left with nodes }.node? location = some node := by
  obtain ⟨entry, among, here⟩ := present
  unfold node?
  rw [if_neg inside]
  cases found : nodes.find? fun entry => decide (entry.1 = location) with
  | none => exact absurd here (by simpa using List.find?_eq_none.1 found entry among)
  | some other =>
    have same := List.find?_some found
    simp only [decide_eq_true_eq] at same
    exact ⟨other.2, same ▸ List.mem_of_find?_eq_some found, rfl⟩

/-- The names in a directory are those that there were and those of added files. -/
theorem exists_perm_namesAt (kept : nodes.filter (fun entry => entry.1 ∉ added) = left.nodes)
    (location : Location) :
    ∃ names : List String, (∀ name ∈ names, name :: location ∈ added) ∧
      ({ left with nodes }.namesAt location).Perm (left.namesAt location ++ names) := by
  refine ⟨{ left with nodes := nodes.filter fun entry => !decide (entry.1 ∉ added) }.namesAt
    location, fun name member => ?_, ?_⟩
  · obtain ⟨node, among⟩ := mem_namesAt.1 member
    simpa using (List.mem_filter.1 among).2
  · unfold namesAt
    rw [← kept, ← List.filterMap_append]
    exact (List.filter_append_perm (fun entry => decide (entry.1 ∉ added)) nodes).symm.filterMap _

/-- A directory with no node but of a kind has the same names in the same order. -/
theorem namesAt_filter (fs : FileSystem) {keep : Location × Node → Bool}
    (all : ∀ name node, (name :: location, node) ∈ fs.nodes →
      keep (name :: location, node) = true) :
    { fs with nodes := fs.nodes.filter keep }.namesAt location = fs.namesAt location := by
  unfold namesAt
  rw [List.filterMap_filter]
  refine List.filterMap_congr fun entry member => ?_
  obtain ⟨place, node⟩ := entry
  cases place with
  | nil => simp
  | cons name outer =>
    by_cases here : outer = location
    · subst here
      simp [all name node member]
    · simp [here]

end

/-- It is enough that without the added files the nodes are those that there were, in their order.
Where an added file is, the listing does not break off. -/
theorem of_nodes {nodes : List (Location × Node)} (rooted : [] ∉ added)
    (kept : nodes.filter (fun entry => entry.1 ∉ added) = left.nodes)
    (present : ∀ location ∈ added, ∃ entry ∈ nodes, entry.1 = location)
    (files : ∀ entry ∈ nodes, entry.1 ∈ added → ∃ content mode, entry.2 = .file content mode)
    (whole : ∀ location ∈ added, ∀ fault ∈ left.faults, fault.1 ≠ location.tail) :
    left.AddsFiles { left with nodes } added where
  workingDirectory := rfl
  guarded := rfl
  kept := fun _ apart => node?_of_filter kept apart
  absent := by
    intro location member
    have inside : location ≠ [] := fun root => rooted (root ▸ member)
    unfold node?
    rw [if_neg inside, ← kept, List.find?_filter, Option.map_eq_none_iff, List.find?_eq_none]
    intro entry _ both
    simp only [decide_not, Bool.not_eq_true', decide_eq_false_iff_not, decide_eq_true_eq] at both
    exact both.1 (both.2 ▸ member)
  present := by
    intro location member
    have inside : location ≠ [] := fun root => rooted (root ▸ member)
    obtain ⟨node, among, found⟩ := exists_node?_of_mem inside (present location member)
    obtain ⟨content, mode, rfl⟩ := files _ among member
    exact ⟨content, mode, found⟩
  listed := by
    intro location
    unfold entriesAt
    dsimp only
    cases fault : left.faults.find? fun fault => decide (fault.1 = location) with
    | none =>
      obtain ⟨names, among, perm⟩ := exists_perm_namesAt kept location
      exact ⟨names, among, by rw [← List.map_append]; exact perm.map _⟩
    | some broken =>
      have same := List.find?_some fault
      simp only [decide_eq_true_eq] at same
      have names := @namesAt_filter location { left with nodes } (fun entry => entry.1 ∉ added) (by
        intro name node _
        refine decide_eq_true fun member => ?_
        exact whole _ member broken (List.mem_of_find?_eq_some fault) same)
      rw [kept] at names
      exact ⟨[], nofun, by simp [names]⟩

end AddsFiles

end AssetLint.FileSystem
