import AssetLint.Proofs.FileSystem.Reachable
import AssetLint.Proofs.Walk.Visits

/-!
The directories that a walk lists. Where every directory is accessible and no look-up of one
exceeds a limit, they are those that can be reached from its root. The invariant is that of a
depth-first search: whatever a listed directory leads to has been seen by the end of the part of
the walk that listed it, under whichever of its paths, and nothing is seen that was not listed.
-/
namespace AssetLint

/-- No look-up of a directory in the listed one exceeds a limit. -/
def FileSystem.EntriesWithin (fs : FileSystem) (location : Location) (path : Path) : Prop :=
  ∀ name goal, fs.HasDirectory location name goal →
    ¬ FileSystem.ExceedsLimit (fs.locate (path.join ⟨name⟩))

/-- No look-up of a directory from one of the listed directories exceeds a limit. -/
def FileSystem.WithinLimits (fs : FileSystem) (visits : List Visit) : Prop :=
  ∀ listing ∈ listings visits, fs.EntriesWithin listing.1 listing.2

/-- What is seen between the beginning and the end of a part of a walk was listed, contains the
places that the part starts from, and can be reached from them; and what the listed directories
lead to is seen by the end. -/
structure Explores (fs : FileSystem) (starts : Location → Prop) (seen : List Location)
    (visits : List Visit) (after : List Location) : Prop where
  kept : seen ⊆ after
  grown : ∀ location ∈ after, location ∈ (listings visits).map Prod.fst ∨ location ∈ seen
  covered : ∀ start, starts start → start ∈ after
  reached : ∀ listing ∈ listings visits, ∃ start, starts start ∧ fs.Reachable start listing.1
  closed : ∀ listing ∈ listings visits, ∀ name goal, fs.HasDirectory listing.1 name goal →
    goal ∈ after

namespace Explores

variable {fs : FileSystem} {starts others : Location → Prop}
variable {seen middle after : List Location} {visits more : List Visit}

/-- A part of a walk that lists nothing. -/
theorem idle (none : listings visits = []) (covered : ∀ start, starts start → start ∈ seen) :
    Explores fs starts seen visits seen where
  kept := List.Subset.refl seen
  grown := fun _ member => .inr member
  covered := covered
  reached := by simp [none]
  closed := by simp [none]

theorem append (first : Explores fs starts seen visits middle)
    (second : Explores fs others middle more after) :
    Explores fs (fun start => starts start ∨ others start) seen (visits ++ more) after where
  kept := List.Subset.trans first.kept second.kept
  grown := by
    intro location member
    rw [listings_append, List.map_append, List.mem_append]
    rcases second.grown location member with listed | early
    · exact .inl (.inr listed)
    · exact (first.grown location early).imp_left .inl
  covered := by
    rintro start (here | there)
    · exact second.kept (first.covered start here)
    · exact second.covered start there
  reached := by
    intro listing member
    rw [listings_append, List.mem_append] at member
    rcases member with member | member
    · obtain ⟨start, here, path⟩ := first.reached listing member
      exact ⟨start, .inl here, path⟩
    · obtain ⟨start, there, path⟩ := second.reached listing member
      exact ⟨start, .inr there, path⟩
  closed := by
    intro listing member name goal leads
    rw [listings_append, List.mem_append] at member
    rcases member with member | member
    · exact second.kept (first.closed listing member name goal leads)
    · exact second.closed listing member name goal leads

theorem congr (same : ∀ start, starts start ↔ others start)
    (explores : Explores fs starts seen visits after) : Explores fs others seen visits after := by
  have equal : starts = others := funext fun start => propext (same start)
  rwa [← equal]

end Explores

section

variable {fs : FileSystem} {path : Path} {location goal : Location} {name : String}

theorem FileSystem.Finds.agree {other : Location} (left : fs.Finds path location)
    (right : fs.Finds path other) : location = other := by
  have same := left.located.symm.trans right.located
  cases same
  rfl

/-- In an accessible file system a directory that can be looked up has a canonical location. -/
theorem FileSystem.Accessible.finds (access : fs.Accessible) (formed : fs.WellFormed)
    (located : fs.locate path = .ok location) (directory : fs.isDirectoryAt location = true) :
    fs.Finds path location :=
  ⟨access.canonical formed located, located, directory⟩

/-- An entry that is a directory is found where it leads to, unless a limit is exceeded. -/
theorem FileSystem.Accessible.finds_join (access : fs.Accessible) (formed : fs.WellFormed)
    (finds : fs.Finds path location) (leads : fs.HasDirectory location name goal)
    (within : fs.EntriesWithin location path) :
    fs.Finds (path.join ⟨name⟩) goal := by
  have proper := formed.isFileName leads.1
  rcases access.locate_join proper finds.located leads.2.1 with located | exceeds
  · exact access.finds formed located leads.2.2
  · exact absurd exceeds (within name goal leads)

theorem FileSystem.Finds.hasDirectory (formed : fs.WellFormed) (finds : fs.Finds path location)
    (member : name ∈ fs.namesAt location) (inner : fs.Finds (path.join ⟨name⟩) goal) :
    fs.HasDirectory location name goal :=
  ⟨member, leads_of_locate_join (formed.isFileName member) finds.located inner.located,
    inner.directory⟩

end

namespace AssetType

variable {assetType : AssetType} {fs : FileSystem}

/-- Listing a directory extends what its entries explore by the directory itself. -/
theorem explores_listed (formed : fs.WellFormed) (access : fs.Accessible) {path : Path}
    {location : Location} {seen after : List Location} {visits : List Visit}
    {entries : List (Except IoError String)} (finds : fs.Finds path location)
    (listing : fs.listAt location = .ok entries)
    (within : fs.EntriesWithin location path)
    (inside : Explores fs (fun start => ∃ inner ∈ sortedEntries path entries,
      fs.Finds inner start) (location :: seen) visits after) :
    Explores fs (fs.Finds path) seen
      (.listed location path :: (unreadableEntries path entries ++ visits)) after := by
  have whole : entries = (fs.namesAt location).map .ok := by
    rw [(access.searchable_listAt finds.directory).2] at listing
    exact (Except.ok.inj listing).symm
  have here : location ∈ after := inside.kept List.mem_cons_self
  have inner : ∀ start, (∃ inner ∈ sortedEntries path entries, fs.Finds inner start) →
      fs.Reachable location start := by
    rintro start ⟨_, member, found⟩
    obtain ⟨name, given, rfl⟩ := mem_sortedEntries.1 member
    have entry : name ∈ fs.namesAt location := by simpa [whole] using given
    exact .single ⟨name, finds.hasDirectory formed entry found⟩
  constructor
  case kept => exact List.Subset.trans (List.subset_cons_self location seen) inside.kept
  case grown =>
    intro other member
    rcases inside.grown other member with listed | early
    · exact .inl (by simp [listed])
    · rcases List.mem_cons.1 early with rfl | early
      · exact .inl (by simp)
      · exact .inr early
  case covered =>
    intro start found
    rwa [found.agree finds]
  case reached =>
    intro other member
    simp only [listings_listed, listings_append, listings_unreadableEntries, List.nil_append,
      List.mem_cons] at member
    rcases member with rfl | member
    · exact ⟨location, finds, .refl⟩
    · obtain ⟨start, starts, further⟩ := inside.reached other member
      exact ⟨location, finds, (inner start starts).trans further⟩
  case closed =>
    intro other member name goal leads
    simp only [listings_listed, listings_append, listings_unreadableEntries, List.nil_append,
      List.mem_cons] at member
    rcases member with rfl | member
    · refine inside.covered goal ⟨path.join ⟨name⟩, mem_sortedEntries.2 ⟨name, ?_, rfl⟩, ?_⟩
      · simpa [whole] using leads.1
      · exact access.finds_join formed finds leads within
    · exact inside.closed other member name goal leads

/-- An entry that is no directory adds nothing to what a list of entries starts from. -/
theorem starts_cons {path : Path} {rest : List Path} (notDir : fs.isDirectory path = false)
    (start : Location) :
    (∃ inner ∈ path :: rest, fs.Finds inner start) ↔ ∃ inner ∈ rest, fs.Finds inner start := by
  constructor
  · rintro ⟨inner, member, found⟩
    rcases List.mem_cons.1 member with rfl | member
    · rw [FileSystem.isDirectory_iff.2 ⟨start, found.located, found.directory⟩] at notDir
      cases notDir
    · exact ⟨inner, member, found⟩
  · rintro ⟨inner, member, found⟩
    exact ⟨inner, List.mem_cons_of_mem _ member, found⟩

theorem explores_walkDirectory (formed : fs.WellFormed) (access : fs.Accessible) {path : Path}
    {seen : List Location} (isDir : fs.isDirectory path = true)
    (within : fs.WithinLimits (assetType.walkDirectory fs path seen).visits) :
    Explores fs (fs.Finds path) seen (assetType.walkDirectory fs path seen).visits
      (assetType.walkDirectory fs path seen).seenAfter := by
  refine (walk_induction assetType fs
    (P := fun path seen visits after => fs.WithinLimits visits →
      Explores fs (fs.Finds path) seen visits after)
    (Q := fun _ paths seen visits after => fs.WithinLimits visits →
      Explores fs (fun start => ∃ path ∈ paths, fs.Finds path start) seen visits after)
    ?uncanonical ?known ?unlisted ?listed ?nil ?inner ?file ?skipped).1 path seen isDir within
  case uncanonical =>
    intro path seen error isDir failed _
    obtain ⟨location, located, _⟩ := FileSystem.isDirectory_iff.1 isDir
    rw [access.canonical formed located] at failed
    cases failed
  case known =>
    intro path seen location finds old _
    -- Whatever path it was seen under, its entries are accounted for where it was listed.
    exact .idle rfl fun start found => by rwa [found.agree finds]
  case unlisted =>
    intro path seen location error finds _ failed _
    rw [(access.searchable_listAt finds.directory).2] at failed
    cases failed
  case listed =>
    intro path seen location entries visits after finds _ listing inside within
    refine explores_listed formed access finds listing ?_ (inside fun other member => ?_)
    · exact within (location, path) (by simp)
    · exact within other (by simp [member])
  case nil =>
    intro _ seen _
    exact .idle rfl fun start => by simp
  case inner =>
    intro _ path rest seen visits middle others after _ inside further within
    have first := inside fun listing member => within listing (by simp [member])
    have second := further fun listing member => within listing (by simp [member])
    exact (first.append second).congr fun start => by simp
  case file =>
    intro _ path rest seen name visits after notDir _ further within
    have same := (further within).congr fun start => (starts_cons notDir start).symm
    exact ⟨same.kept, same.grown, same.covered, same.reached, same.closed⟩
  case skipped =>
    intro _ path rest seen visits after notDir _ further within
    exact (further within).congr fun start => (starts_cons notDir start).symm

/-- A walk from a directory lists what can be reached from it, and nothing else. -/
theorem mem_listings_iff (formed : fs.WellFormed) (access : fs.Accessible) {root : Path}
    {start : Location} (finds : fs.Finds root start)
    (within : fs.WithinLimits (assetType.walkDirectory fs root []).visits)
    (directory : Location) :
    directory ∈ (listings (assetType.walkDirectory fs root []).visits).map Prod.fst ↔
      fs.Reachable start directory := by
  have explored := explores_walkDirectory formed access finds.isDirectory within
  have listed : ∀ location ∈ (assetType.walkDirectory fs root []).seenAfter,
      location ∈ (listings (assetType.walkDirectory fs root []).visits).map Prod.fst :=
    fun location member => (explored.grown location member).resolve_right (by simp)
  constructor
  · intro listed
    obtain ⟨listing, member, rfl⟩ := List.mem_map.1 listed
    obtain ⟨other, found, further⟩ := explored.reached listing member
    rwa [found.agree finds] at further
  · intro further
    induction further with
    | refl => exact listed start (explored.covered start finds)
    | tail _ step ih =>
      obtain ⟨listing, member, rfl⟩ := List.mem_map.1 ih
      obtain ⟨name, leads⟩ := step
      exact listed _ (explored.closed listing member name _ leads)

end AssetType
end AssetLint
