import AssetLint.Proofs.FileSystem.SameTree
import AssetLint.Proofs.Walk.Order

/-!
The walks of one directory in two file systems that differ only in their files. Neither what a
walk has seen nor where it goes next depends on a file, so both walks make the same visits and
end with the same directories seen (`lockstep_walk`). Only what is found in a file may differ.
-/
namespace AssetLint

open FileSystem

/-- The same visit in both file systems. A file is checked as it is in each of them. -/
inductive Visit.Alike (assetType : AssetType) (left right : FileSystem) : Visit → Visit → Prop
  | listed (location : Location) (path : Path) :
    Alike assetType left right (.listed location path) (.listed location path)
  | known (location : Location) (path : Path) :
    Alike assetType left right (.known location path) (.known location path)
  | file (directory : Location) (name : String) (path : Path) :
    Alike assetType left right (.file directory name (assetType.validateFile left path))
      (.file directory name (assetType.validateFile right path))
  | warning (issue : Issue) : Alike assetType left right (.warning issue) (.warning issue)

theorem FileSystem.SameTree.finds {left right : FileSystem} (same : left.SameTree right)
    {path : Path} {location : Location} (finds : left.Finds path location) :
    right.Finds path location where
  canonical := same.canonical_eq path ▸ finds.canonical
  located := same.locate_eq path ▸ finds.located
  directory := same.isDirectoryAt_eq location ▸ finds.directory

namespace AssetType

variable {assetType : AssetType} {left right : FileSystem} {location : Location}
variable {entries others : List (Except IoError String)}

/-- Nothing of a file is looked at but what it reads as. -/
theorem validateFile_congr (assetType : AssetType) {path : Path}
    (text : left.readText path = right.readText path) :
    assetType.validateFile left path = assetType.validateFile right path := by
  unfold validateFile
  rw [text]

/-- Paths of entries of one directory can be put in order in one way only. -/
theorem eq_of_perm_of_sorted {path : Path} {sorted again : List Path} (perm : sorted.Perm again)
    (entries : ∀ inner ∈ sorted, ∃ name, IsFileName name ∧ inner = path.join ⟨name⟩)
    (first : sorted.Pairwise fun inner other => inner.le other = true)
    (second : again.Pairwise fun inner other => inner.le other = true) : sorted = again := by
  refine List.Perm.eq_of_pairwise (fun inner other here there before after => ?_) first second perm
  obtain ⟨name, own, rfl⟩ := entries inner here
  obtain ⟨text, beside, rfl⟩ := entries other (perm.mem_iff.2 there)
  have bytes := le_antisymm ((Path.le_join_iff path own beside).1 before)
    ((Path.le_join_iff path beside own).1 after)
  rw [Path.Component.nameBytes_injective bytes]

/-- What is sorted are paths of entries. -/
theorem isFileName_of_mem_sortedEntries (formed : left.WellFormed)
    (listing : left.listAt location = .ok entries) {path inner : Path}
    (member : inner ∈ sortedEntries path entries) :
    ∃ name, IsFileName name ∧ inner = path.join ⟨name⟩ := by
  obtain ⟨name, given, rfl⟩ := mem_sortedEntries.1 member
  exact ⟨name, formed.isFileName (mem_namesAt_of_listAt listing given), rfl⟩

/-- Names that come in another order are sorted the same. -/
theorem sortedEntries_eq_of_perm (formed : left.WellFormed)
    (listing : left.listAt location = .ok entries) (perm : entries.Perm others) (path : Path) :
    sortedEntries path entries = sortedEntries path others := by
  refine eq_of_perm_of_sorted ?_
    (fun _ => isFileName_of_mem_sortedEntries formed listing)
    (pairwise_sortedEntries path entries) (pairwise_sortedEntries path others)
  have names := (perm.filterMap Except.toOption).map fun name => path.join ⟨name⟩
  exact (perm_sortedEntries path entries).trans (names.trans (perm_sortedEntries path others).symm)

@[simp] theorem unreadableEntries_append (path : Path) :
    unreadableEntries path (entries ++ others) =
      unreadableEntries path entries ++ unreadableEntries path others :=
  List.filterMap_append

@[simp] theorem unreadableEntries_map_ok (path : Path) (names : List String) :
    unreadableEntries path (names.map .ok) = [] := by
  simp [unreadableEntries]

/-- A listing breaks off at most once. -/
theorem length_unreadableEntries_le (listing : left.listAt location = .ok entries) (path : Path) :
    (unreadableEntries path entries).length ≤ 1 := by
  unfold listAt at listing
  split at listing
  · split at listing
    · rw [← Except.ok.inj listing, entriesAt]
      split
      · simp
      · rw [unreadableEntries_append, unreadableEntries_map_ok]
        exact Nat.le_refl 1
    · cases listing
  · cases listing
  · cases listing

theorem unreadableEntries_eq_of_perm (listing : left.listAt location = .ok entries)
    (perm : entries.Perm others) (path : Path) :
    unreadableEntries path entries = unreadableEntries path others := by
  have same : (unreadableEntries path entries).Perm (unreadableEntries path others) :=
    perm.filterMap _
  have single := length_unreadableEntries_le listing path
  match unread : unreadableEntries path entries with
  | [] => exact (List.nil_perm.1 (unread ▸ same)).symm
  | [warning] => exact List.singleton_perm.1 (unread ▸ same)
  | _ :: _ :: _ =>
    rw [unread] at single
    simp at single

/-- Both walks make the same visits and end with the same directories seen. -/
theorem lockstep_walk (same : left.SameTree right) (formed : left.WellFormed) {path : Path}
    (seen : List Location) (isDir : left.isDirectory path = true) :
    List.Forall₂ (Visit.Alike assetType left right)
        (assetType.walkDirectory left path seen).visits
        (assetType.walkDirectory right path seen).visits ∧
      (assetType.walkDirectory left path seen).seenAfter =
        (assetType.walkDirectory right path seen).seenAfter := by
  -- The induction is on the walk on the left; in each case that on the right takes the same turn.
  refine (walk_induction assetType left
    (P := fun path seen visits after =>
      List.Forall₂ (Visit.Alike assetType left right) visits
          (assetType.walkDirectory right path seen).visits ∧
        after = (assetType.walkDirectory right path seen).seenAfter)
    (Q := fun directory paths seen visits after =>
      List.Forall₂ (Visit.Alike assetType left right) visits
          (assetType.walkEntries right directory paths seen).visits ∧
        after = (assetType.walkEntries right directory paths seen).seenAfter)
    ?uncanonical ?known ?unlisted ?listed ?nil ?inner ?file ?skipped).1 path seen isDir
  case uncanonical =>
    intro path seen error _ failed
    rw [same.canonical_eq] at failed
    rw [walkDirectory_of_uncanonical failed]
    exact ⟨.cons (.warning _) .nil, rfl⟩
  case known =>
    intro path seen location finds stale
    rw [walkDirectory_of_known (same.finds finds) stale]
    exact ⟨.cons (.known location path) .nil, rfl⟩
  case unlisted =>
    intro path seen location error finds fresh failed
    have refused : right.listAt location = .error error := by
      rcases same.listAt_cases location with ⟨other, first, second⟩ | ⟨_, _, given, _⟩
      · rw [second, ← first, failed]
      · cases failed.symm.trans given
    rw [walkDirectory_of_unlisted (same.finds finds) fresh refused]
    exact ⟨.cons (.warning _) .nil, rfl⟩
  case listed =>
    intro path seen location entries visits after finds fresh listing inside
    rcases same.listAt_cases location with ⟨_, failed, _⟩ | ⟨first, others, given, also, perm⟩
    · cases failed.symm.trans listing
    · cases given.symm.trans listing
      have walked := @walkDirectory_of_listed assetType _ _ _ _ _ (same.finds finds) fresh also
      rw [walked.1, walked.2, ← sortedEntries_eq_of_perm formed listing perm path,
        ← unreadableEntries_eq_of_perm listing perm path]
      refine ⟨.cons (.listed location path) (List.rel_append ?_ inside.1), inside.2⟩
      refine List.forall₂_same.2 fun visit member => ?_
      obtain ⟨issue, rfl, _⟩ := mem_unreadableEntries member
      exact .warning issue
  case nil =>
    intro directory seen
    rw [walkEntries]
    exact ⟨.nil, rfl⟩
  case inner =>
    intro directory path rest seen visits middle others after isDir inside further
    rw [same.isDirectory_eq] at isDir
    rw [(walkEntries_of_directory isDir).1, (walkEntries_of_directory isDir).2, ← inside.2]
    exact ⟨List.rel_append inside.1 further.1, further.2⟩
  case file =>
    intro directory path rest seen name visits after notDir matched further
    rw [same.isDirectory_eq] at notDir
    rw [(walkEntries_of_file notDir matched).1, (walkEntries_of_file notDir matched).2]
    exact ⟨.cons (.file directory name path) further.1, further.2⟩
  case skipped =>
    intro directory path rest seen visits after notDir unmatched further
    rw [same.isDirectory_eq] at notDir
    rw [walkEntries_of_skipped notDir unmatched]
    exact further

theorem lockstep_visits (same : left.SameTree right) (formed : left.WellFormed) (root : Path) :
    List.Forall₂ (Visit.Alike assetType left right) (assetType.visits left root)
      (assetType.visits right root) := by
  unfold visits
  rw [same.exists_eq, same.isDirectory_eq]
  split
  · exact .cons (.warning _) .nil
  · split
    · exact .cons (.warning _) .nil
    · next present =>
      have isDir : left.isDirectory root = true := by
        rw [same.isDirectory_eq]
        simpa using present
      exact (lockstep_walk same formed [] isDir).1

end AssetType
end AssetLint
