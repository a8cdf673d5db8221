import AssetLint.Registry
import AssetLint.Validate

/-!
Walking directories. A directory is listed once, under whichever of its paths the walk comes
to it first, so links that loop or meet end the walk; the count of directories not seen yet
falls with every listing. Files whose names do not match the asset type are passed over, and
an entry that cannot be read is a warning that leaves the rest of its listing in place.
-/
namespace AssetLint

/-- What happened at one place of a walk. -/
inductive Visit where
  | listed (location : Location) (path : Path)
  /-- A directory seen before under its location. -/
  | known (location : Location) (path : Path)
  /-- A file with its directory and its name there. -/
  | file (directory : Location) (name : String) (outcome : Outcome)
  | warning (issue : Issue)

namespace FileSystem

/-- Directories that are not seen yet. -/
def unseen (fs : FileSystem) (seen : List Location) : Nat :=
  fs.directories.countP fun location => !seen.contains location

private theorem countP_lt {α : Type} {xs : List α} {p q : α → Bool} {x : α} (member : x ∈ xs)
    (weaker : ∀ y, p y = true → q y = true) (here : q x = true) (gone : p x = false) :
    xs.countP p < xs.countP q := by
  induction xs with
  | nil => cases member
  | cons y ys ih =>
    have below : ys.countP p ≤ ys.countP q := List.countP_mono_left fun z _ => weaker z
    rw [List.countP_cons, List.countP_cons]
    rcases List.mem_cons.1 member with same | inside
    · subst same
      simp only [here, gone]
      simp
      omega
    · have strict := ih inside
      by_cases py : p y = true
      · simp [py, weaker y py]
        exact strict
      · simp [py]
        omega

theorem unseen_cons_lt {fs : FileSystem} {seen : List Location} {location : Location}
    (directory : fs.isDirectoryAt location = true) (fresh : seen.contains location = false) :
    fs.unseen (location :: seen) < fs.unseen seen := by
  refine countP_lt (mem_directories.2 directory) ?_ (by simpa using fresh) (by simp)
  intro other apart
  simp only [List.contains_cons, Bool.not_or, Bool.and_eq_true] at apart
  exact apart.2

theorem unseen_le {fs : FileSystem} {seen later : List Location} (kept : seen ⊆ later) :
    fs.unseen later ≤ fs.unseen seen := by
  refine List.countP_mono_left fun location _ absent => ?_
  simp only [Bool.not_eq_true', List.contains_eq_mem, decide_eq_false_iff_not] at absent ⊢
  exact fun member => absent (kept member)

end FileSystem

namespace AssetType

/-- The measure of a walk falls with the entries of a directory, whatever the first adds. -/
private theorem unseen_length_lt {fs : FileSystem} {seen later : List Location} {path : Path}
    {rest : List Path} (kept : seen ⊆ later) :
    Prod.Lex (· < ·) (· < ·) (fs.unseen later, rest.length)
      (fs.unseen seen, (path :: rest).length) := by
  rcases Nat.lt_or_eq_of_le (FileSystem.unseen_le kept) with fewer | same
  · exact Prod.Lex.left _ _ fewer
  · rw [same]
    exact Prod.Lex.right _ (Nat.lt_succ_self _)

/-- Visits of a walk, and the directories seen by its end. -/
structure Walked (seen : List Location) where
  visits : List Visit
  seenAfter : List Location
  kept : seen ⊆ seenAfter

def unreadable (path : Path) (error : IoError) : Visit :=
  .warning ⟨path, .directory, "Cannot read directory " ++ path.text ++ ": " ++ error.message⟩

/-- The warnings for entries that a listing failed to give. -/
def unreadableEntries (path : Path) (entries : List (Except IoError String)) : List Visit :=
  entries.filterMap fun entry =>
    match entry with
    | .ok _ => none
    | .error error =>
      some (.warning ⟨path, .directory,
        "Cannot read entry in directory " ++ path.text ++ ": " ++ error.message⟩)

/-- Paths of the entries that a listing gave, in order. -/
def sortedEntries (path : Path) (entries : List (Except IoError String)) : List Path :=
  ((entries.filterMap Except.toOption).map fun name => path.join ⟨name⟩).mergeSort Path.le

set_option linter.unusedVariables false in
mutual

/-- Visits a directory and all that is in it. -/
def walkDirectory (assetType : AssetType) (fs : FileSystem) (path : Path) (seen : List Location) :
    Walked seen :=
  match fs.canonical path with
  | .error error => ⟨[unreadable path error], seen, List.Subset.refl seen⟩
  | .ok location =>
    if fresh : fs.isDirectoryAt location = true ∧ seen.contains location = false then
      match fs.list path with
      | .error error =>
        ⟨[unreadable path error], location :: seen, List.subset_cons_self location seen⟩
      | .ok entries =>
        let inside := walkEntries assetType fs location (sortedEntries path entries)
          (location :: seen)
        ⟨.listed location path :: (unreadableEntries path entries ++ inside.visits),
          inside.seenAfter, fun _ member => inside.kept (List.mem_cons_of_mem _ member)⟩
    else ⟨[.known location path], seen, List.Subset.refl seen⟩
termination_by (fs.unseen seen, 0)
decreasing_by exact Prod.Lex.left _ _ (FileSystem.unseen_cons_lt fresh.1 fresh.2)

/-- Visits entries of a directory in order. -/
def walkEntries (assetType : AssetType) (fs : FileSystem) (directory : Location)
    (paths : List Path) (seen : List Location) : Walked seen :=
  match paths with
  | [] => ⟨[], seen, List.Subset.refl seen⟩
  | path :: rest =>
    if fs.isDirectory path then
      let inside := walkDirectory assetType fs path seen
      let after := walkEntries assetType fs directory rest inside.seenAfter
      ⟨inside.visits ++ after.visits, after.seenAfter, List.Subset.trans inside.kept after.kept⟩
    else
      match path.fileName?.filter assetType.matchesName with
      | some name =>
        let after := walkEntries assetType fs directory rest seen
        ⟨.file directory name (assetType.validateFile fs path) :: after.visits,
          after.seenAfter, after.kept⟩
      | none => walkEntries assetType fs directory rest seen
termination_by (fs.unseen seen, paths.length)
decreasing_by
  · exact Prod.Lex.right _ (Nat.succ_pos _)
  · exact unseen_length_lt inside.kept
  · exact Prod.Lex.right _ (Nat.lt_succ_self _)
  · exact Prod.Lex.right _ (Nat.lt_succ_self _)

end

/-- Visits of the walk from a root, which need not be there. -/
def visits (assetType : AssetType) (fs : FileSystem) (root : Path) : List Visit :=
  if !fs.exists? root then
    [.warning ⟨root, .directory, "Directory does not exist: " ++ root.text⟩]
  else if !fs.isDirectory root then
    [.warning ⟨root, .directory, "Not a directory: " ++ root.text⟩]
  else (assetType.walkDirectory fs root []).visits

end AssetType

namespace Summary

def recordVisit (summary : Summary) : Visit → Summary
  | .file _ _ outcome => summary.recordFile outcome
  | .warning issue => summary.recordIssue issue
  | .listed .. | .known .. => summary

/-- Adds the files and warnings of a walk. -/
def recordWalk (summary : Summary) (assetType : AssetType) (fs : FileSystem) (root : Path) :
    Summary :=
  (assetType.visits fs root).foldl recordVisit summary

end Summary

namespace Registry

/-- Validates the directory of every asset type under the root, in order. -/
def validateTree (registry : Registry) (fs : FileSystem) (root : Path) : Summary :=
  registry.assetTypes.foldl
    (fun summary assetType => summary.recordWalk assetType fs (root.join assetType.directory))
    Summary.empty

/-- Validates the tree and, before each walk, lets `enter` act on a state of its own. -/
def validateTreeWith {State : Type} (registry : Registry) (fs : FileSystem) (root : Path)
    (enter : State → AssetType → State) (state : State) : State × Summary :=
  registry.assetTypes.foldl
    (fun (state, summary) assetType =>
      (enter state assetType,
        summary.recordWalk assetType fs (root.join assetType.directory)))
    (state, Summary.empty)

/-- The outcome of a file named by its path, which need not match the pattern of its type. -/
def validatePath (registry : Registry) (fs : FileSystem) (root path : Path) : Outcome :=
  match registry.resolve root path with
  | some assetType => assetType.validateFile fs path
  | none => ⟨path, [⟨path, .fileError, "No asset type matches this path"⟩]⟩

def validatePaths (registry : Registry) (fs : FileSystem) (root : Path) (paths : List Path) :
    Summary :=
  paths.foldl (fun summary path => summary.recordFile (registry.validatePath fs root path))
    Summary.empty

end Registry
end AssetLint
