import AssetLint.Proofs.FileSystem.Additions
import AssetLint.Proofs.Walk.Lockstep

/-!
Entries that a walk passes over. An entry that is no directory and not named as the type asks might
as well not be there (`walkEntries_filter`). So a walk in a file system with further files that are
all to be passed over makes the same visits, however deep the files are, and ends with the same
directories seen (`walk_eq_of_adds`).
-/
namespace AssetLint

open FileSystem

namespace FileSystem.AddsFiles

variable {left right : FileSystem} {added : List Location}

theorem finds (adds : left.AddsFiles right added) {path : Path} {location : Location}
    (finds : left.Finds path location) : right.Finds path location where
  canonical := by rw [adds.canonical_eq (by rw [finds.canonical]; nofun), finds.canonical]
  located := by rw [adds.locate_eq (by rw [finds.located]; nofun), finds.located]
  directory := (adds.isDirectoryAt_eq location).trans finds.directory

end FileSystem.AddsFiles

namespace AssetType

variable {assetType : AssetType} {left right : FileSystem} {added : List Location}
variable {path : Path} {location : Location} {entries others : List (Except IoError String)}

/-- Entries that are passed over might as well not be there. -/
theorem walkEntries_filter {fs : FileSystem} {paths : List Path} (keep : Path → Bool)
    (passed : ∀ path ∈ paths, keep path = false →
      fs.isDirectory path = false ∧ path.fileName?.filter assetType.matchesName = none)
    (directory : Location) (seen : List Location) :
    assetType.walkEntries fs directory (paths.filter keep) seen =
      assetType.walkEntries fs directory paths seen := by
  induction paths generalizing seen with
  | nil => rfl
  | cons path rest ih =>
    have ih := ih fun other later => passed other (List.mem_cons_of_mem _ later)
    by_cases kept : keep path = true
    · rw [List.filter_cons_of_pos kept, walkEntries, walkEntries]
      simp only [ih]
    · obtain ⟨notDir, unmatched⟩ :=
        passed path List.mem_cons_self (Bool.not_eq_true _ ▸ kept)
      rw [List.filter_cons_of_neg kept, ih, walkEntries_of_skipped notDir unmatched]

/-- Further names are sorted in between, and the order of the others stays. -/
theorem filter_sortedEntries (twin : right.WellFormed)
    (listing : right.listAt location = .ok others) {names : List String}
    (perm : others.Perm (entries ++ names.map .ok))
    (apart : ∀ name ∈ names, path.join ⟨name⟩ ∉ sortedEntries path entries) :
    (sortedEntries path others).filter (fun inner => inner ∈ sortedEntries path entries) =
      sortedEntries path entries := by
  refine @eq_of_perm_of_sorted path _ _ ?same ?proper
    ((pairwise_sortedEntries path others).filter _) (pairwise_sortedEntries path entries)
  case proper =>
    intro inner member
    exact isFileName_of_mem_sortedEntries twin listing (List.mem_filter.1 member).1
  case same =>
    have sorted := perm_sortedEntries path entries
    have old := List.filter_eq_self.2 fun inner member =>
      decide_eq_true (sorted.mem_iff.2 member)
    have new : (names.map fun name => path.join ⟨name⟩).filter
        (fun inner => inner ∈ sortedEntries path entries) = [] := by
      refine List.filter_eq_nil_iff.2 fun inner member => ?_
      obtain ⟨name, among, rfl⟩ := List.mem_map.1 member
      simpa using apart name among
    have given := (perm.filterMap Except.toOption).map fun name => path.join ⟨name⟩
    rw [List.filterMap_append, filterMap_toOption_map_ok, List.map_append] at given
    have kept := ((perm_sortedEntries path others).trans given).filter
      fun inner => decide (inner ∈ sortedEntries path entries)
    rw [List.filter_append, old, new, List.append_nil] at kept
    exact kept.trans sorted.symm

section

variable (adds : left.AddsFiles right added) (twin : right.WellFormed)
variable (unmatched : ∀ name directory, name :: directory ∈ added →
  assetType.matchesName name = false)

include adds twin unmatched

/-- The added files of a directory are passed over. -/
theorem walkEntries_sortedEntries_eq (finds : left.Finds path location)
    (listing : left.listAt location = .ok entries) (also : right.listAt location = .ok others)
    {names : List String} (among : ∀ name ∈ names, name :: location ∈ added)
    (perm : others.Perm (entries ++ names.map .ok)) (seen : List Location) :
    assetType.walkEntries right location (sortedEntries path others) seen =
      assetType.walkEntries right location (sortedEntries path entries) seen := by
  have proper : ∀ name, .ok name ∈ others → IsFileName name := fun name given =>
    twin.isFileName (mem_namesAt_of_listAt also given)
  have new : ∀ name ∈ names, .ok name ∈ others := fun name given =>
    perm.mem_iff.2 (List.mem_append_right _ (List.mem_map_of_mem given))
  have apart : ∀ name ∈ names, path.join ⟨name⟩ ∉ sortedEntries path entries := by
    intro name given member
    obtain ⟨other, old, same⟩ := mem_sortedEntries.1 member
    have beside := proper other (perm.mem_iff.2 (List.mem_append_left _ old))
    have named := congrArg Path.fileName? same
    rw [Path.fileName?_join path beside, Path.fileName?_join path (proper name (new name given)),
      Option.some.injEq] at named
    have there := isSome_node?_iff.2 (mem_namesAt_of_listAt listing old)
    exact adds.not_mem_of_isSome there (named ▸ among name given)
  rw [← filter_sortedEntries twin also perm apart]
  refine (walkEntries_filter _ (fun inner member dropped => ?_) location seen).symm
  obtain ⟨name, given, rfl⟩ := mem_sortedEntries.1 member
  have fresh : name :: location ∈ added := by
    rcases List.mem_append.1 (perm.mem_iff.1 given) with old | member
    · exact absurd (mem_sortedEntries.2 ⟨name, old, rfl⟩) (by simpa using dropped)
    · obtain ⟨other, member, same⟩ := List.mem_map.1 member
      cases same
      exact among name member
  constructor
  · rw [adds.isDirectory_eq]
    exact adds.isDirectory_join_of_mem (proper name given) finds.located fresh
  · rw [Path.fileName?_join path (proper name given)]
    simp [Option.filter, unmatched name location fresh]

/-- With further files that are to be passed over a walk makes the same visits and ends with the
same directories seen. -/
theorem walk_eq_of_adds (formed : left.WellFormed) (whole : left.LinksLead)
    (seen : List Location) (isDir : left.isDirectory path = true) :
    (assetType.walkDirectory right path seen).visits =
        (assetType.walkDirectory left path seen).visits ∧
      (assetType.walkDirectory right path seen).seenAfter =
        (assetType.walkDirectory left path seen).seenAfter := by
  -- The induction is on the walk without the files; that with them takes the same turns.
  refine (walk_induction assetType left
    (P := fun path seen visits after =>
      (assetType.walkDirectory right path seen).visits = visits ∧
        (assetType.walkDirectory right path seen).seenAfter = after)
    (Q := fun directory paths seen visits after =>
      (∀ path ∈ paths, right.readText path = left.readText path) →
        (assetType.walkEntries right directory paths seen).visits = visits ∧
          (assetType.walkEntries right directory paths seen).seenAfter = after)
    ?uncanonical ?known ?unlisted ?listed ?nil ?inner ?file ?skipped).1 path seen isDir
  case uncanonical =>
    intro path seen error isDir failed
    obtain ⟨goal, located, _⟩ := isDirectory_iff.1 isDir
    have refused := adds.canonical_eq (formed.canonical_ne_notFound located)
    rw [failed] at refused
    rw [walkDirectory_of_uncanonical refused]
    exact ⟨rfl, rfl⟩
  case known =>
    intro path seen location finds stale
    rw [walkDirectory_of_known (adds.finds finds) stale]
    exact ⟨rfl, rfl⟩
  case unlisted =>
    intro path seen location error finds fresh failed
    have refused : right.listAt location = .error error := by
      rcases adds.listAt_cases finds.directory with ⟨other, first, second⟩ | ⟨_, _, _, given, _⟩
      · rw [second, ← first, failed]
      · cases failed.symm.trans given
    rw [walkDirectory_of_unlisted (adds.finds finds) fresh refused]
    exact ⟨rfl, rfl⟩
  case listed =>
    intro path seen location entries visits after finds fresh listing inside
    rcases adds.listAt_cases finds.directory with
      ⟨_, failed, _⟩ | ⟨first, others, names, given, also, among, perm⟩
    · cases failed.symm.trans listing
    · cases given.symm.trans listing
      have unread : unreadableEntries path others = unreadableEntries path entries := by
        rw [unreadableEntries_eq_of_perm also perm path, unreadableEntries_append,
          unreadableEntries_map_ok, List.append_nil]
      have walked := walkEntries_sortedEntries_eq adds twin unmatched finds listing also among perm
        (location :: seen)
      have texts : ∀ inner ∈ sortedEntries path entries,
          right.readText inner = left.readText inner := by
        intro inner member
        obtain ⟨name, old, rfl⟩ := mem_sortedEntries.1 member
        exact adds.readText_join_eq formed whole finds.located finds.directory
          (mem_namesAt_of_listAt listing old)
      obtain ⟨rfl, rfl⟩ := inside texts
      have listed := @walkDirectory_of_listed assetType _ _ _ _ _ (adds.finds finds) fresh also
      rw [unread, walked] at listed
      exact listed
  case nil =>
    intro directory seen _
    rw [walkEntries]
    exact ⟨rfl, rfl⟩
  case inner =>
    intro directory path rest seen visits middle others after isDir inside further texts
    obtain ⟨rfl, rfl⟩ := inside
    have further := further fun other later => texts other (List.mem_cons_of_mem _ later)
    rw [← adds.isDirectory_eq] at isDir
    rw [(walkEntries_of_directory isDir).1, (walkEntries_of_directory isDir).2, further.1]
    exact ⟨rfl, further.2⟩
  case file =>
    intro directory path rest seen name visits after notDir matched further texts
    have further := further fun other later => texts other (List.mem_cons_of_mem _ later)
    rw [← adds.isDirectory_eq] at notDir
    rw [(walkEntries_of_file notDir matched).1, (walkEntries_of_file notDir matched).2, further.1,
      assetType.validateFile_congr (texts path List.mem_cons_self)]
    exact ⟨rfl, further.2⟩
  case skipped =>
    intro directory path rest seen visits after notDir unmatched further texts
    rw [← adds.isDirectory_eq] at notDir
    rw [walkEntries_of_skipped notDir unmatched]
    exact further fun other later => texts other (List.mem_cons_of_mem _ later)

/-- With further files that are to be passed over a run makes the same visits, unless one of them
is where it was to start. -/
theorem visits_eq_of_adds (formed : left.WellFormed) (whole : left.LinksLead) {root : Path}
    (apart : ∀ location ∈ added, right.locate root ≠ .ok location) :
    assetType.visits right root = assetType.visits left root := by
  unfold visits
  rw [adds.exists_eq apart, adds.isDirectory_eq]
  split
  · rfl
  · split
    · rfl
    · next present =>
      exact (walk_eq_of_adds adds twin unmatched formed whole [] (by simpa using present)).1

end

end AssetType
end AssetLint
