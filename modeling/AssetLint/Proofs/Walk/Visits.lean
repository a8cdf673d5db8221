import Mathlib.Data.List.Perm.Basic
import AssetLint.Proofs.FileSystem.Lookup
import AssetLint.Walk

/-!
What every walk has in common, whatever the file system. `walk_induction` gives the visits of a
directory and of a list of entries by the cases of the walk, and `visits_induction` is its form
for properties of single visits. A directory is listed at most once (`listsOnce_visits`), and
the files recorded are those that the listed directories hold (`records_perm`).
-/
namespace AssetLint

namespace Visit

def listing? : Visit → Option (Location × Path)
  | .listed location path => some (location, path)
  | _ => none

/-- A recorded file as its directory and its name there. -/
def record? : Visit → Option (Location × String)
  | .file directory name _ => some (directory, name)
  | _ => none

def outcome? : Visit → Option Outcome
  | .file _ _ outcome => some outcome
  | _ => none

end Visit

/-- The directories that were listed, each with the path it was listed under. -/
def listings (visits : List Visit) : List (Location × Path) :=
  visits.filterMap Visit.listing?

/-- The files that were recorded. -/
def records (visits : List Visit) : List (Location × String) :=
  visits.filterMap Visit.record?

@[simp] theorem listings_append (visits others : List Visit) :
    listings (visits ++ others) = listings visits ++ listings others :=
  List.filterMap_append

@[simp] theorem records_append (visits others : List Visit) :
    records (visits ++ others) = records visits ++ records others :=
  List.filterMap_append

/-- A file is recorded with its outcome. -/
theorem length_records (visits : List Visit) :
    (records visits).length = (visits.filterMap Visit.outcome?).length := by
  induction visits with
  | nil => rfl
  | cons visit rest ih =>
    cases visit with
    | file directory name outcome => exact congrArg Nat.succ ih
    | listed location path => exact ih
    | known location path => exact ih
    | warning issue => exact ih

@[simp] theorem listings_nil : listings [] = [] := rfl

@[simp] theorem listings_known (location : Location) (path : Path) (visits : List Visit) :
    listings (.known location path :: visits) = listings visits := rfl

@[simp] theorem listings_listed (location : Location) (path : Path) (visits : List Visit) :
    listings (.listed location path :: visits) = (location, path) :: listings visits := rfl

@[simp] theorem records_listed (location : Location) (path : Path) (visits : List Visit) :
    records (.listed location path :: visits) = records visits := rfl

@[simp] theorem listings_file (directory : Location) (name : String) (outcome : Outcome)
    (visits : List Visit) :
    listings (.file directory name outcome :: visits) = listings visits := rfl

@[simp] theorem records_file (directory : Location) (name : String) (outcome : Outcome)
    (visits : List Visit) :
    records (.file directory name outcome :: visits) = (directory, name) :: records visits := rfl

/-- The path is that of a directory, which it finds at the location. -/
structure FileSystem.Finds (fs : FileSystem) (path : Path) (location : Location) : Prop where
  canonical : fs.canonical path = .ok location
  located : fs.locate path = .ok location
  directory : fs.isDirectoryAt location = true

namespace FileSystem

variable {fs : FileSystem} {path : Path} {location : Location}

theorem isDirectory_iff :
    fs.isDirectory path = true ↔
      ∃ location, fs.locate path = .ok location ∧ fs.isDirectoryAt location = true := by
  unfold isDirectory
  cases fs.locate path <;> simp

theorem finds_of_canonical (inside : fs.isDirectory path = true)
    (canonical : fs.canonical path = .ok location) : fs.Finds path location := by
  obtain ⟨place, located, directory⟩ := isDirectory_iff.1 inside
  cases canonical_agree located canonical
  exact ⟨canonical, located, directory⟩

theorem Finds.isDirectory (finds : fs.Finds path location) : fs.isDirectory path = true :=
  isDirectory_iff.2 ⟨location, finds.located, finds.directory⟩

theorem Finds.list_eq (finds : fs.Finds path location) : fs.list path = fs.listAt location := by
  unfold list
  rw [finds.located]
  rfl

end FileSystem

namespace AssetType

variable {assetType : AssetType} {fs : FileSystem}

section

variable {path : Path} {location : Location} {seen : List Location}

theorem walkDirectory_of_uncanonical {error : IoError} (failed : fs.canonical path = .error error) :
    assetType.walkDirectory fs path seen =
      ⟨[unreadable path error], seen, List.Subset.refl seen⟩ := by
  rw [walkDirectory, failed]

theorem walkDirectory_of_known (finds : fs.Finds path location) (stale : location ∈ seen) :
    assetType.walkDirectory fs path seen =
      ⟨[.known location path], seen, List.Subset.refl seen⟩ := by
  have again : ¬ (fs.isDirectoryAt location = true ∧ seen.contains location = false) := by
    simp [stale]
  rw [walkDirectory, finds.canonical]
  simp only [again, ↓reduceDIte]

theorem walkDirectory_of_unlisted {error : IoError} (finds : fs.Finds path location)
    (fresh : location ∉ seen) (failed : fs.listAt location = .error error) :
    assetType.walkDirectory fs path seen =
      ⟨[unreadable path error], location :: seen, List.subset_cons_self location seen⟩ := by
  rw [← finds.list_eq] at failed
  rw [walkDirectory, finds.canonical]
  simp only [finds.directory, List.contains_eq_mem, fresh, decide_false, and_self, ↓reduceDIte,
    failed]

/-- A directory that is new and can be listed is walked through. -/
theorem walkDirectory_of_listed {entries : List (Except IoError String)}
    (finds : fs.Finds path location) (fresh : location ∉ seen)
    (listing : fs.listAt location = .ok entries) :
    (assetType.walkDirectory fs path seen).visits =
        .listed location path :: (unreadableEntries path entries ++
          (assetType.walkEntries fs location (sortedEntries path entries)
            (location :: seen)).visits) ∧
      (assetType.walkDirectory fs path seen).seenAfter =
        (assetType.walkEntries fs location (sortedEntries path entries)
          (location :: seen)).seenAfter := by
  rw [← finds.list_eq] at listing
  rw [walkDirectory, finds.canonical]
  simp only [finds.directory, List.contains_eq_mem, fresh, decide_false, and_self, ↓reduceDIte,
    listing]

variable {directory : Location} {rest : List Path}

theorem walkEntries_of_directory (isDir : fs.isDirectory path = true) :
    (assetType.walkEntries fs directory (path :: rest) seen).visits =
        (assetType.walkDirectory fs path seen).visits ++
          (assetType.walkEntries fs directory rest
            (assetType.walkDirectory fs path seen).seenAfter).visits ∧
      (assetType.walkEntries fs directory (path :: rest) seen).seenAfter =
        (assetType.walkEntries fs directory rest
          (assetType.walkDirectory fs path seen).seenAfter).seenAfter := by
  rw [walkEntries]
  simp only [isDir, ↓reduceIte, and_self]

theorem walkEntries_of_file {name : String} (notDir : fs.isDirectory path = false)
    (matched : path.fileName?.filter assetType.matchesName = some name) :
    (assetType.walkEntries fs directory (path :: rest) seen).visits =
        .file directory name (assetType.validateFile fs path) ::
          (assetType.walkEntries fs directory rest seen).visits ∧
      (assetType.walkEntries fs directory (path :: rest) seen).seenAfter =
        (assetType.walkEntries fs directory rest seen).seenAfter := by
  rw [walkEntries]
  simp only [notDir, matched, Bool.false_eq_true, ↓reduceIte, and_self]

theorem walkEntries_of_skipped (notDir : fs.isDirectory path = false)
    (unmatched : path.fileName?.filter assetType.matchesName = none) :
    assetType.walkEntries fs directory (path :: rest) seen =
      assetType.walkEntries fs directory rest seen := by
  rw [walkEntries]
  simp only [notDir, unmatched, Bool.false_eq_true, ↓reduceIte]

end

/-- A property of what a walk starts from and ends with holds if every case of it keeps it. -/
theorem walk_induction (assetType : AssetType) (fs : FileSystem)
    {P : Path → List Location → List Visit → List Location → Prop}
    {Q : Location → List Path → List Location → List Visit → List Location → Prop}
    (uncanonical : ∀ path seen error, fs.isDirectory path = true →
      fs.canonical path = .error error → P path seen [unreadable path error] seen)
    (known : ∀ path seen location, fs.Finds path location → location ∈ seen →
      P path seen [.known location path] seen)
    (unlisted : ∀ path seen location error, fs.Finds path location → location ∉ seen →
      fs.listAt location = .error error →
      P path seen [unreadable path error] (location :: seen))
    (listed : ∀ path seen location entries visits after, fs.Finds path location →
      location ∉ seen → fs.listAt location = .ok entries →
      Q location (sortedEntries path entries) (location :: seen) visits after →
      P path seen (.listed location path :: (unreadableEntries path entries ++ visits)) after)
    (nil : ∀ directory seen, Q directory [] seen [] seen)
    (inner : ∀ directory path rest seen visits middle others after,
      fs.isDirectory path = true → P path seen visits middle →
      Q directory rest middle others after →
      Q directory (path :: rest) seen (visits ++ others) after)
    (file : ∀ directory path rest seen name visits after, fs.isDirectory path = false →
      path.fileName?.filter assetType.matchesName = some name →
      Q directory rest seen visits after →
      Q directory (path :: rest) seen
        (.file directory name (assetType.validateFile fs path) :: visits) after)
    (skipped : ∀ directory path rest seen visits after, fs.isDirectory path = false →
      path.fileName?.filter assetType.matchesName = none →
      Q directory rest seen visits after → Q directory (path :: rest) seen visits after) :
    (∀ path seen, fs.isDirectory path = true →
      P path seen (assetType.walkDirectory fs path seen).visits
        (assetType.walkDirectory fs path seen).seenAfter) ∧
    ∀ directory paths seen, Q directory paths seen
      (assetType.walkEntries fs directory paths seen).visits
      (assetType.walkEntries fs directory paths seen).seenAfter := by
  apply walkDirectory.mutual_induct assetType fs
    (fun path seen => fs.isDirectory path = true →
      P path seen (assetType.walkDirectory fs path seen).visits
        (assetType.walkDirectory fs path seen).seenAfter)
    (fun directory paths seen => Q directory paths seen
      (assetType.walkEntries fs directory paths seen).visits
      (assetType.walkEntries fs directory paths seen).seenAfter)
  · intro path seen error failed isDir
    rw [walkDirectory_of_uncanonical failed]
    exact uncanonical path seen error isDir failed
  · intro path seen location found fresh error failed isDir
    have finds := FileSystem.finds_of_canonical isDir found
    have new : location ∉ seen := by simpa using fresh.2
    rw [finds.list_eq] at failed
    rw [walkDirectory_of_unlisted finds new failed]
    exact unlisted path seen location error finds new failed
  · intro path seen location found fresh entries listing inside isDir
    have finds := FileSystem.finds_of_canonical isDir found
    have new : location ∉ seen := by simpa using fresh.2
    rw [finds.list_eq] at listing
    rw [(walkDirectory_of_listed finds new listing).1,
      (walkDirectory_of_listed finds new listing).2]
    exact listed path seen location entries _ _ finds new listing inside
  · intro path seen location found stale isDir
    have finds := FileSystem.finds_of_canonical isDir found
    have again : location ∈ seen := by simpa [finds.directory] using stale
    rw [walkDirectory_of_known finds again]
    exact known path seen location finds again
  · intro directory seen
    rw [walkEntries]
    exact nil directory seen
  · intro directory seen path rest isDir inside first second _
    rw [(walkEntries_of_directory isDir).1, (walkEntries_of_directory isDir).2]
    exact inner directory path rest seen _ _ _ _ isDir (first isDir) second
  · intro directory seen path rest notDir name matched after
    have plain : fs.isDirectory path = false := by simpa using notDir
    rw [(walkEntries_of_file plain matched).1, (walkEntries_of_file plain matched).2]
    exact file directory path rest seen name _ _ plain matched after
  · intro directory seen path rest notDir unmatched after
    have plain : fs.isDirectory path = false := by simpa using notDir
    rw [walkEntries_of_skipped plain unmatched]
    exact skipped directory path rest seen _ _ plain unmatched after

/-- A root that is no directory is warned of and not walked. -/
theorem visits_eq (assetType : AssetType) (fs : FileSystem) (root : Path) :
    (∃ issue, issue.file = root ∧ issue.kind = .directory ∧
        assetType.visits fs root = [.warning issue]) ∨
      fs.isDirectory root = true ∧
        assetType.visits fs root = (assetType.walkDirectory fs root []).visits := by
  unfold visits
  split
  · exact .inl ⟨_, rfl, rfl, rfl⟩
  · split
    · exact .inl ⟨_, rfl, rfl, rfl⟩
    · next present => exact .inr ⟨by simpa using present, rfl⟩

/-- The walk of a directory that holds one file. -/
theorem visits_of_single {root : Path} {location : Location} {name : String}
    (finds : fs.Finds root location) (listing : fs.listAt location = .ok [.ok name])
    (plain : fs.isDirectory (root.join ⟨name⟩) = false)
    (matched : (root.join ⟨name⟩).fileName?.filter assetType.matchesName = some name) :
    assetType.visits fs root =
      [.listed location root,
        .file location name (assetType.validateFile fs (root.join ⟨name⟩))] := by
  have present : fs.exists? root = true := by
    unfold FileSystem.exists?
    rw [finds.located]
    rfl
  have entries : sortedEntries root [.ok name] = [root.join ⟨name⟩] := List.mergeSort_singleton _
  rw [visits, present, finds.isDirectory]
  simp only [Bool.not_true, Bool.false_eq_true, ↓reduceIte]
  rw [(walkDirectory_of_listed finds List.not_mem_nil listing).1, entries,
    (walkEntries_of_file plain matched).1, walkEntries]
  rfl

/-- The warnings of a listing are about its directory. -/
theorem mem_unreadableEntries {path : Path} {entries : List (Except IoError String)}
    {visit : Visit} (member : visit ∈ unreadableEntries path entries) :
    ∃ issue, visit = .warning issue ∧ issue.file = path ∧ issue.kind = .directory := by
  obtain ⟨entry, _, shape⟩ := List.mem_filterMap.1 member
  cases entry with
  | ok name => cases shape
  | error error =>
    cases shape
    exact ⟨_, rfl, rfl, rfl⟩

@[simp] theorem listings_unreadableEntries (path : Path)
    (entries : List (Except IoError String)) : listings (unreadableEntries path entries) = [] := by
  refine List.filterMap_eq_nil_iff.2 fun visit member => ?_
  obtain ⟨issue, rfl, _⟩ := mem_unreadableEntries member
  rfl

@[simp] theorem records_unreadableEntries (path : Path)
    (entries : List (Except IoError String)) : records (unreadableEntries path entries) = [] := by
  refine List.filterMap_eq_nil_iff.2 fun visit member => ?_
  obtain ⟨issue, rfl, _⟩ := mem_unreadableEntries member
  rfl

theorem mem_sortedEntries {path inner : Path} {entries : List (Except IoError String)} :
    inner ∈ sortedEntries path entries ↔
      ∃ name, Except.ok name ∈ entries ∧ inner = path.join ⟨name⟩ := by
  simp only [sortedEntries, List.mem_mergeSort, List.mem_map, List.mem_filterMap]
  constructor
  · rintro ⟨name, ⟨entry, member, given⟩, rfl⟩
    cases entry with
    | error error => cases given
    | ok text =>
      cases given
      exact ⟨_, member, rfl⟩
  · rintro ⟨name, member, rfl⟩
    exact ⟨name, ⟨_, member, rfl⟩, rfl⟩

/-- A property of visits holds for a whole walk if it holds at every path of a kind that the
walk keeps to. -/
theorem visits_induction {R : Path → Prop} {K : Visit → Prop} {root : Path}
    (entry : ∀ path location entries, R path → fs.Finds path location →
      fs.listAt location = .ok entries → ∀ inner ∈ sortedEntries path entries, R inner)
    (warning : ∀ path issue, R path → fs.isDirectory path = true → issue.file = path →
      issue.kind = .directory → K (.warning issue))
    (known : ∀ path location, R path → fs.Finds path location → K (.known location path))
    (listed : ∀ path location entries, R path → fs.Finds path location →
      fs.listAt location = .ok entries → K (.listed location path))
    (file : ∀ directory path name, R path → fs.isDirectory path = false →
      path.fileName?.filter assetType.matchesName = some name →
      K (.file directory name (assetType.validateFile fs path)))
    (isDir : fs.isDirectory root = true) (first : R root) (seen : List Location) :
    ∀ visit ∈ (assetType.walkDirectory fs root seen).visits, K visit := by
  refine (walk_induction assetType fs
    (P := fun path _ visits _ => R path → ∀ visit ∈ visits, K visit)
    (Q := fun _ paths _ visits _ => (∀ path ∈ paths, R path) → ∀ visit ∈ visits, K visit)
    ?uncanonical ?known ?unlisted ?listed ?nil ?inner ?file ?skipped).1 root seen isDir first
  case uncanonical =>
    intro path _ error isDir _ kind visit member
    cases List.mem_singleton.1 member
    exact warning path _ kind isDir rfl rfl
  case known =>
    intro path _ location finds _ kind visit member
    cases List.mem_singleton.1 member
    exact known path location kind finds
  case unlisted =>
    intro path _ _ error finds _ _ kind visit member
    cases List.mem_singleton.1 member
    exact warning path _ kind finds.isDirectory rfl rfl
  case listed =>
    intro path _ location entries visits _ finds _ listing inside kind visit member
    rw [List.mem_cons, List.mem_append] at member
    rcases member with rfl | failed | member
    · exact listed path location entries kind finds listing
    · obtain ⟨issue, rfl, about, directory⟩ := mem_unreadableEntries failed
      exact warning path issue kind finds.isDirectory about directory
    · exact inside (entry path location entries kind finds listing) visit member
  case nil =>
    intro _ _ _ visit member
    cases member
  case inner =>
    intro _ path rest _ visits _ others _ _ inside after kinds visit member
    rcases List.mem_append.1 member with member | member
    · exact inside (kinds path List.mem_cons_self) visit member
    · exact after (fun other later => kinds other (List.mem_cons_of_mem _ later)) visit member
  case file =>
    intro directory path rest _ name visits _ notDir matched after kinds visit member
    rcases List.mem_cons.1 member with rfl | member
    · exact file directory path name (kinds path List.mem_cons_self) notDir matched
    · exact after (fun other later => kinds other (List.mem_cons_of_mem _ later)) visit member
  case skipped =>
    intro _ _ _ _ _ _ _ _ after kinds visit member
    exact after (fun other later => kinds other (List.mem_cons_of_mem _ later)) visit member

/-- The directories listed are new, different from each other, and seen from then on. -/
structure ListsOnce (seen : List Location) (visits : List Visit) (after : List Location) :
    Prop where
  kept : seen ⊆ after
  fresh : ∀ listing ∈ listings visits, listing.1 ∉ seen ∧ listing.1 ∈ after
  once : ((listings visits).map Prod.fst).Nodup

theorem ListsOnce.of_nil {seen after : List Location} {visits : List Visit}
    (none : listings visits = []) (kept : seen ⊆ after) : ListsOnce seen visits after where
  kept := kept
  fresh := by simp [none]
  once := by simp [none]

theorem ListsOnce.append {seen middle after : List Location} {visits others : List Visit}
    (first : ListsOnce seen visits middle) (second : ListsOnce middle others after) :
    ListsOnce seen (visits ++ others) after where
  kept := List.Subset.trans first.kept second.kept
  fresh := by
    intro listing member
    rw [listings_append, List.mem_append] at member
    rcases member with member | member
    · exact ⟨(first.fresh listing member).1, second.kept (first.fresh listing member).2⟩
    · have late := second.fresh listing member
      exact ⟨fun early => late.1 (first.kept early), late.2⟩
  once := by
    rw [listings_append, List.map_append, List.nodup_append]
    refine ⟨first.once, second.once, ?_⟩
    intro left early right late same
    obtain ⟨listing, before, rfl⟩ := List.mem_map.1 early
    obtain ⟨other, later, rfl⟩ := List.mem_map.1 late
    exact (second.fresh other later).1 (same ▸ (first.fresh listing before).2)

theorem listsOnce_visits {path : Path} {seen : List Location}
    (isDir : fs.isDirectory path = true) :
    ListsOnce seen (assetType.walkDirectory fs path seen).visits
      (assetType.walkDirectory fs path seen).seenAfter := by
  refine (walk_induction assetType fs
    (P := fun _ seen visits after => ListsOnce seen visits after)
    (Q := fun _ _ seen visits after => ListsOnce seen visits after)
    ?uncanonical ?known ?unlisted ?listed ?nil ?inner ?file ?skipped).1 path seen isDir
  case uncanonical =>
    intro _ seen _ _ _
    exact .of_nil rfl (List.Subset.refl seen)
  case known =>
    intro _ seen _ _ _
    exact .of_nil rfl (List.Subset.refl seen)
  case unlisted =>
    intro _ seen location _ _ _ _
    exact .of_nil rfl (List.subset_cons_self location seen)
  case listed =>
    intro path seen location entries visits after _ fresh _ inside
    have first : ListsOnce seen (.listed location path :: unreadableEntries path entries)
        (location :: seen) := by
      refine ⟨List.subset_cons_self location seen, ?_, ?_⟩
      · simp [fresh]
      · simp
    exact first.append inside
  case nil =>
    intro _ seen
    exact .of_nil rfl (List.Subset.refl seen)
  case inner =>
    intro _ _ _ _ _ _ _ _ _ inside after
    exact inside.append after
  case file =>
    intro _ _ _ seen _ _ _ _ _ after
    exact ⟨after.kept, after.fresh, after.once⟩
  case skipped =>
    intro _ _ _ _ _ _ _ _ after
    exact after

/-- The files to be recorded among the entries of a directory. -/
def recordable (assetType : AssetType) (fs : FileSystem) (directory : Location)
    (paths : List Path) : List (Location × String) :=
  paths.filterMap fun path =>
    if fs.isDirectory path then none
    else (path.fileName?.filter assetType.matchesName).map fun name => (directory, name)

/-- The files to be recorded in a directory that was listed under a path. -/
def held (assetType : AssetType) (fs : FileSystem) (listing : Location × Path) :
    List (Location × String) :=
  match fs.listAt listing.1 with
  | .ok entries => assetType.recordable fs listing.1 (sortedEntries listing.2 entries)
  | .error _ => []

/-- A walk records the files of the directories that it lists, each as often as it is listed
there. -/
theorem records_perm {path : Path} {seen : List Location} (isDir : fs.isDirectory path = true) :
    (records (assetType.walkDirectory fs path seen).visits).Perm
      ((listings (assetType.walkDirectory fs path seen).visits).flatMap
        (assetType.held fs)) := by
  refine (walk_induction assetType fs
    (P := fun _ _ visits _ =>
      (records visits).Perm ((listings visits).flatMap (assetType.held fs)))
    (Q := fun directory paths _ visits _ =>
      (records visits).Perm (assetType.recordable fs directory paths ++
        (listings visits).flatMap (assetType.held fs)))
    ?uncanonical ?known ?unlisted ?listed ?nil ?inner ?file ?skipped).1 path seen isDir
  case uncanonical =>
    intro _ _ _ _ _
    exact .refl []
  case known =>
    intro _ _ _ _ _
    exact .refl []
  case unlisted =>
    intro _ _ _ _ _ _ _
    exact .refl []
  case listed =>
    intro path _ location entries visits _ _ _ listing inside
    have own : assetType.held fs (location, path) =
        assetType.recordable fs location (sortedEntries path entries) := by
      simp only [held, listing]
    simpa [own] using inside
  case nil =>
    intro _ _
    exact .refl []
  case inner =>
    intro directory path rest _ visits _ others _ isDir inside after
    have none : assetType.recordable fs directory (path :: rest) =
        assetType.recordable fs directory rest := by
      simp [recordable, isDir]
    rw [records_append, listings_append, List.flatMap_append, none]
    -- What is in the inner directory comes before the later files of the outer one.
    exact (inside.append after).trans (List.perm_append_comm_assoc _ _ _)
  case file =>
    intro directory path rest _ name visits _ notDir matched after
    have one : assetType.recordable fs directory (path :: rest) =
        (directory, name) :: assetType.recordable fs directory rest := by
      simp [recordable, notDir, matched]
    rw [one]
    exact after.cons _
  case skipped =>
    intro directory path rest _ visits _ notDir unmatched after
    have none : assetType.recordable fs directory (path :: rest) =
        assetType.recordable fs directory rest := by
      simp [recordable, notDir, unmatched]
    rw [none]
    exact after

end AssetType
end AssetLint
