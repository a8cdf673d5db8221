import Mathlib.Data.Set.Card
import AssetLint.Proofs.Summary.Accounting
import AssetLint.Proofs.Walk.Complete

/-!
The files that a walk records. Each is recorded in its directory, so a file counts once for
every directory that holds it and not once for every path that leads to it. With the directories
listed once and none left out, the files recorded are those that the walk covers, and they are
what the total of a summary grows by.
-/
namespace AssetLint

/-- Every file counts once, and nothing else does. -/
theorem Summary.totalFiles_recordVisits (summary : Summary) (visits : List Visit) :
    (visits.foldl recordVisit summary).totalFiles =
      summary.totalFiles + (records visits).length := by
  induction visits generalizing summary with
  | nil => rfl
  | cons visit rest ih =>
    rw [List.foldl_cons, ih]
    cases visit with
    | listed location path => rfl
    | known location path => rfl
    | file directory name outcome =>
      simp only [recordVisit, recordFile_eq, records_file, List.length_cons]
      omega
    | warning issue =>
      have same : (summary.recordIssue issue).totalFiles = summary.totalFiles := by
        unfold recordIssue
        split <;> rfl
      simp only [recordVisit, same]
      rfl

namespace AssetType

variable {assetType : AssetType} {fs : FileSystem}

/-- A file that a walk from the start is to record: an entry of a directory that can be reached,
no directory itself, and named as the type asks. -/
def Covers (assetType : AssetType) (fs : FileSystem) (start : Location)
    (entry : Location × String) : Prop :=
  fs.Reachable start entry.1 ∧ entry.2 ∈ fs.namesAt entry.1 ∧
    (∀ goal, ¬ fs.HasDirectory entry.1 entry.2 goal) ∧ assetType.matchesName entry.2 = true

/-- Different entries of a listing have different names. -/
theorem apart_sortedEntries (formed : fs.WellFormed) {location : Location}
    {entries : List (Except IoError String)} (listing : fs.listAt location = .ok entries)
    (path : Path) : (sortedEntries path entries).Pairwise
      fun left right => left.fileName? ≠ right.fileName? := by
  have whole := FileSystem.sublist_namesAt_of_listAt listing
  have names := whole.nodup formed.nodup_namesAt
  refine (List.mergeSort_perm _ _).symm.pairwise (List.pairwise_map.2 ?_) Ne.symm
  refine names.imp_of_mem fun {name other} given also differ same => differ ?_
  rw [Path.fileName?_join path (formed.isFileName (whole.subset given)),
    Path.fileName?_join path (formed.isFileName (whole.subset also))] at same
  exact Option.some.inj same

/-- A listed directory holds the files that its listing gives and that are named as the type
asks. -/
theorem mem_held_iff (formed : fs.WellFormed) {path : Path} {location : Location}
    (entry : Location × String) :
    entry ∈ assetType.held fs (location, path) ↔
      entry.1 = location ∧ ∃ entries, fs.listAt location = .ok entries ∧
        .ok entry.2 ∈ entries ∧ fs.isDirectory (path.join ⟨entry.2⟩) = false ∧
        assetType.matchesName entry.2 = true := by
  unfold held
  cases listing : fs.listAt location with
  | error error => simp
  | ok entries =>
    have named : ∀ name, .ok name ∈ entries → (path.join ⟨name⟩).fileName? = some name :=
      fun name given => Path.fileName?_join path
        (formed.isFileName (FileSystem.mem_namesAt_of_listAt listing given))
    simp only [recordable, List.mem_filterMap]
    constructor
    · rintro ⟨inner, member, shape⟩
      obtain ⟨name, given, rfl⟩ := mem_sortedEntries.1 member
      split at shape
      · cases shape
      · next plain =>
        rw [named name given] at shape
        cases matched : assetType.matchesName name with
        | false => simp [Option.filter, matched] at shape
        | true =>
          simp only [Option.filter, matched, if_true, Option.map_some, Option.some.injEq] at shape
          subst shape
          exact ⟨rfl, entries, rfl, given, by simpa using plain, matched⟩
    · rintro ⟨same, found, shape, given, plain, matched⟩
      cases shape
      refine ⟨path.join ⟨entry.2⟩, mem_sortedEntries.2 ⟨entry.2, given, rfl⟩, ?_⟩
      simp [plain, named entry.2 given, Option.filter, matched, ← same]

/-- A listed directory holds each of its files once. -/
theorem nodup_held (formed : fs.WellFormed) (listing : Location × Path) :
    (assetType.held fs listing).Nodup := by
  unfold held
  split
  · next entries given =>
    refine (apart_sortedEntries formed given listing.2).filterMap _ ?_
    intro left right differ first early second late same
    split at early
    · cases early
    · split at late
      · cases late
      · obtain ⟨name, here, rfl⟩ := Option.map_eq_some_iff.1 early
        obtain ⟨other, there, rfl⟩ := Option.map_eq_some_iff.1 late
        obtain ⟨left, _⟩ := Option.filter_eq_some_iff.1 here
        obtain ⟨right, _⟩ := Option.filter_eq_some_iff.1 there
        exact differ (left.trans ((congrArg some (congrArg Prod.snd same)).trans right.symm))
  · exact .nil

theorem isDirectory_join_iff (formed : fs.WellFormed) (access : fs.Accessible) {path : Path}
    {location : Location} {name : String} (finds : fs.Finds path location)
    (member : name ∈ fs.namesAt location)
    (within : fs.EntriesWithin location path) :
    fs.isDirectory (path.join ⟨name⟩) = true ↔ ∃ goal, fs.HasDirectory location name goal := by
  constructor
  · intro inner
    obtain ⟨goal, located, directory⟩ := FileSystem.isDirectory_iff.1 inner
    exact ⟨goal, finds.hasDirectory formed member (access.finds formed located directory)⟩
  · rintro ⟨goal, leads⟩
    exact (access.finds_join formed finds leads within).isDirectory

/-- In an accessible file system what a listed directory holds are the files in it that are to be
recorded. -/
theorem mem_held_iff_of_accessible (formed : fs.WellFormed) (access : fs.Accessible) {path : Path}
    {location : Location} (finds : fs.Finds path location)
    (within : fs.EntriesWithin location path) (entry : Location × String) :
    entry ∈ assetType.held fs (location, path) ↔
      entry.1 = location ∧ entry.2 ∈ fs.namesAt location ∧
        (∀ goal, ¬ fs.HasDirectory location entry.2 goal) ∧
        assetType.matchesName entry.2 = true := by
  have plain : entry.2 ∈ fs.namesAt location → (fs.isDirectory (path.join ⟨entry.2⟩) = false ↔
      ∀ goal, ¬ fs.HasDirectory location entry.2 goal) := by
    intro member
    rw [← not_exists, ← isDirectory_join_iff formed access finds member within,
      Bool.not_eq_true]
  rw [mem_held_iff formed, (access.searchable_listAt finds.directory).2]
  constructor
  · rintro ⟨same, entries, shape, given, notDir, matched⟩
    cases shape
    have member : entry.2 ∈ fs.namesAt location := by simpa using given
    exact ⟨same, member, (plain member).1 notDir, matched⟩
  · rintro ⟨same, member, notDir, matched⟩
    exact ⟨same, _, rfl, by simpa using member, (plain member).2 notDir, matched⟩

/-- A directory is listed under a path that finds it. -/
theorem finds_of_mem_listings {root : Path} (isDir : fs.isDirectory root = true)
    {listing : Location × Path}
    (member : listing ∈ listings (assetType.walkDirectory fs root []).visits) :
    fs.Finds listing.2 listing.1 := by
  obtain ⟨visit, inside, shape⟩ := List.mem_filterMap.1 member
  refine visits_induction (R := fun _ => True)
    (K := fun visit => visit.listing? = some listing → fs.Finds listing.2 listing.1)
    (fun _ _ _ _ _ _ _ _ => trivial) ?warning ?known ?listed ?file isDir trivial [] visit
    inside shape
  case warning =>
    intro _ _ _ _ _ _ shape
    cases shape
  case known =>
    intro _ _ _ _ shape
    cases shape
  case listed =>
    intro path location _ _ finds _ shape
    cases shape
    exact finds
  case file =>
    intro _ _ _ _ _ _ shape
    cases shape

section

variable (formed : fs.WellFormed) (access : fs.Accessible) {root : Path} {start : Location}
  (finds : fs.Finds root start)
  (within : fs.WithinLimits (assetType.walkDirectory fs root []).visits)

include formed access finds within

theorem mem_records_iff (entry : Location × String) :
    entry ∈ records (assetType.walkDirectory fs root []).visits ↔
      assetType.Covers fs start entry := by
  have isDir := finds.isDirectory
  rw [(records_perm isDir).mem_iff, List.mem_flatMap]
  constructor
  · rintro ⟨⟨location, path⟩, listed, member⟩
    have found := finds_of_mem_listings isDir listed
    obtain ⟨same, rest⟩ :=
      (mem_held_iff_of_accessible formed access found (within _ listed) entry).1 member
    subst same
    refine ⟨(mem_listings_iff formed access finds within entry.1).1 ?_, rest⟩
    exact List.mem_map.2 ⟨_, listed, rfl⟩
  · rintro ⟨reached, rest⟩
    have listed := (mem_listings_iff formed access finds within entry.1).2 reached
    obtain ⟨⟨location, path⟩, listed, same⟩ := List.mem_map.1 listed
    have found := finds_of_mem_listings isDir listed
    subst same
    exact ⟨_, listed,
      (mem_held_iff_of_accessible formed access found (within _ listed) entry).2 ⟨rfl, rest⟩⟩

end

/-- No file of a directory is recorded twice, whatever its paths. -/
theorem nodup_records (formed : fs.WellFormed) {root : Path}
    (isDir : fs.isDirectory root = true) :
    (records (assetType.walkDirectory fs root []).visits).Nodup := by
  have once : ((listings (assetType.walkDirectory fs root []).visits).map Prod.fst).Nodup :=
    (listsOnce_visits isDir).once
  rw [(records_perm isDir).nodup_iff, List.nodup_flatMap]
  refine ⟨fun listing _ => nodup_held formed listing, ?_⟩
  refine (List.pairwise_map.1 once).imp fun {left right} differ entry early late => differ ?_
  exact ((mem_held_iff formed entry).1 early).1.symm.trans ((mem_held_iff formed entry).1 late).1

/-- The walk of the type lists the directory, its listing gives the name, and the entry is no
directory and is named as the type asks. -/
def Takes (assetType : AssetType) (fs : FileSystem) (root : Path) (entry : Location × String) :
    Prop :=
  ∃ path entries, (entry.1, path) ∈ listings (assetType.visits fs root) ∧
    fs.listAt entry.1 = .ok entries ∧ .ok entry.2 ∈ entries ∧
    fs.isDirectory (path.join ⟨entry.2⟩) = false ∧ assetType.matchesName entry.2 = true

theorem mem_records_visits_iff (formed : fs.WellFormed) {root : Path} (entry : Location × String) :
    entry ∈ records (assetType.visits fs root) ↔ assetType.Takes fs root entry := by
  unfold Takes
  rcases visits_eq assetType fs root with ⟨issue, _, _, shape⟩ | ⟨isDir, shape⟩
  · simp [shape, records, listings, Visit.record?, Visit.listing?]
  · rw [shape, (records_perm isDir).mem_iff, List.mem_flatMap]
    constructor
    · rintro ⟨⟨location, path⟩, listed, member⟩
      obtain ⟨same, entries, rest⟩ := (mem_held_iff formed entry).1 member
      subst same
      exact ⟨path, entries, listed, rest⟩
    · rintro ⟨path, entries, listed, rest⟩
      exact ⟨_, listed, (mem_held_iff formed entry).2 ⟨rfl, entries, rest⟩⟩

theorem nodup_records_visits (formed : fs.WellFormed) {root : Path} :
    (records (assetType.visits fs root)).Nodup := by
  rcases visits_eq assetType fs root with ⟨issue, _, _, shape⟩ | ⟨isDir, shape⟩
  · rw [shape]
    exact .nil
  · rw [shape]
    exact nodup_records formed isDir

/-- A file is recorded with the outcome of its name under the path of its directory. -/
theorem outcome_of_mem_visits {path : Path} {seen : List Location}
    (formed : fs.WellFormed) (isDir : fs.isDirectory path = true)
    {directory : Location} {name : String} {outcome : Outcome}
    (member : .file directory name outcome ∈ (assetType.walkDirectory fs path seen).visits) :
    ∃ outer, (directory, outer) ∈ listings (assetType.walkDirectory fs path seen).visits ∧
      outcome = assetType.validateFile fs (outer.join ⟨name⟩) := by
  refine (walk_induction assetType fs
    (P := fun _ _ visits _ => ∀ directory name outcome, .file directory name outcome ∈ visits →
      ∃ outer, (directory, outer) ∈ listings visits ∧
        outcome = assetType.validateFile fs (outer.join ⟨name⟩))
    (Q := fun here paths _ visits _ => ∀ base,
      (∀ path ∈ paths, ∃ name, IsFileName name ∧ path = base.join ⟨name⟩) →
      ∀ directory name outcome, .file directory name outcome ∈ visits →
      ∃ outer, (directory, outer) ∈ (here, base) :: listings visits ∧
        outcome = assetType.validateFile fs (outer.join ⟨name⟩))
    ?uncanonical ?known ?unlisted ?listed ?nil ?inner ?file ?skipped).1
    path seen isDir directory name outcome member
  case uncanonical =>
    intro _ _ _ _ _ _ _ _ member
    cases List.mem_singleton.1 member
  case known =>
    intro _ _ _ _ _ _ _ _ member
    cases List.mem_singleton.1 member
  case unlisted =>
    intro _ _ _ _ _ _ _ _ _ _ member
    cases List.mem_singleton.1 member
  case listed =>
    intro path _ location entries visits _ finds _ listing inside directory name outcome member
    rw [List.mem_cons, List.mem_append] at member
    rcases member with same | failed | member
    · cases same
    · obtain ⟨issue, same, _⟩ := mem_unreadableEntries failed
      cases same
    · have shapes : ∀ inner ∈ sortedEntries path entries,
          ∃ name, IsFileName name ∧ inner = path.join ⟨name⟩ := by
        intro inner among
        obtain ⟨name, given, rfl⟩ := mem_sortedEntries.1 among
        have entry := FileSystem.mem_namesAt_of_listAt listing given
        exact ⟨name, formed.isFileName entry, rfl⟩
      obtain ⟨outer, listed, shape⟩ := inside path shapes directory name outcome member
      exact ⟨outer, by simpa using listed, shape⟩
  case nil =>
    intro _ _ _ _ _ _ _ member
    cases member
  case inner =>
    intro _ path rest _ visits _ others _ _ inside after base shapes directory name outcome member
    rcases List.mem_append.1 member with member | member
    · obtain ⟨outer, listed, shape⟩ := inside directory name outcome member
      exact ⟨outer, by simp [listed], shape⟩
    · obtain ⟨outer, listed, shape⟩ :=
        after base (fun other later => shapes other (List.mem_cons_of_mem _ later))
          directory name outcome member
      refine ⟨outer, ?_, shape⟩
      rcases List.mem_cons.1 listed with same | listed
      · simp [same]
      · simp [listed]
  case file =>
    intro here path rest _ own visits _ _ matched after base shapes directory name outcome member
    rcases List.mem_cons.1 member with same | member
    · obtain ⟨text, proper, shape⟩ := shapes path List.mem_cons_self
      cases same
      rw [shape, Path.fileName?_join base proper] at matched
      obtain ⟨same, _⟩ := Option.filter_eq_some_iff.1 matched
      cases same
      exact ⟨base, List.mem_cons_self, by rw [shape]⟩
    · exact after base (fun other later => shapes other (List.mem_cons_of_mem _ later))
        directory name outcome member
  case skipped =>
    intro _ path rest _ _ _ _ _ after base shapes
    exact after base fun other later => shapes other (List.mem_cons_of_mem _ later)

/-- An entry that a listing gives is recorded, with the outcome of its path, if it is no directory
and is named as the type asks, and not otherwise. -/
theorem file_mem_visits_iff (formed : fs.WellFormed) {root path : Path}
    (isDir : fs.isDirectory root = true) {location : Location}
    {entries : List (Except IoError String)} {name : String} {outcome : Outcome}
    (listed : (location, path) ∈ listings (assetType.walkDirectory fs root []).visits)
    (listing : fs.listAt location = .ok entries) (given : .ok name ∈ entries) :
    .file location name outcome ∈ (assetType.walkDirectory fs root []).visits ↔
      fs.isDirectory (path.join ⟨name⟩) = false ∧ assetType.matchesName name = true ∧
        outcome = assetType.validateFile fs (path.join ⟨name⟩) := by
  have once : ((listings (assetType.walkDirectory fs root []).visits).map Prod.fst).Nodup :=
    (listsOnce_visits isDir).once
  have settled : ∀ outcome, .file location name outcome ∈
      (assetType.walkDirectory fs root []).visits →
        outcome = assetType.validateFile fs (path.join ⟨name⟩) := by
    intro outcome member
    obtain ⟨outer, also, same⟩ := outcome_of_mem_visits formed isDir member
    cases List.inj_on_of_nodup_map once also listed rfl
    exact same
  have recorded : (location, name) ∈ records (assetType.walkDirectory fs root []).visits ↔
      fs.isDirectory (path.join ⟨name⟩) = false ∧ assetType.matchesName name = true := by
    rw [(records_perm isDir).mem_iff, List.mem_flatMap]
    constructor
    · rintro ⟨⟨place, outer⟩, also, member⟩
      obtain ⟨rfl, _, _, _, plain, matched⟩ := (mem_held_iff formed _).1 member
      cases List.inj_on_of_nodup_map once also listed rfl
      exact ⟨plain, matched⟩
    · rintro ⟨plain, matched⟩
      exact ⟨_, listed, (mem_held_iff formed _).2 ⟨rfl, entries, listing, given, plain, matched⟩⟩
  constructor
  · intro member
    obtain ⟨plain, matched⟩ := recorded.1 (List.mem_filterMap.2 ⟨_, member, rfl⟩)
    exact ⟨plain, matched, settled outcome member⟩
  · rintro ⟨plain, matched, rfl⟩
    obtain ⟨visit, member, shape⟩ := List.mem_filterMap.1 (recorded.2 ⟨plain, matched⟩)
    cases visit with
    | file directory text outcome =>
      cases shape
      rwa [← settled outcome member]
    | listed location path => cases shape
    | known location path => cases shape
    | warning issue => cases shape

/-- A walk from the start lists the directories that can be reached, records the files that it
covers, and does both just once, whichever path of a directory it takes. -/
structure Exhausts (assetType : AssetType) (fs : FileSystem) (start : Location)
    (visits : List Visit) : Prop where
  listed_once : ((listings visits).map Prod.fst).Nodup
  listed_iff : ∀ directory, directory ∈ (listings visits).map Prod.fst ↔
    fs.Reachable start directory
  recorded_once : (records visits).Nodup
  recorded_iff : ∀ entry, entry ∈ records visits ↔ assetType.Covers fs start entry
  validated : ∀ directory name outcome, .file directory name outcome ∈ visits →
    ∃ path, (directory, path) ∈ listings visits ∧ fs.Finds path directory ∧
      outcome = assetType.validateFile fs (path.join ⟨name⟩)

/-- Where every directory is accessible and no look-up of one exceeds a limit, the walk of a
directory is complete and visits nothing twice, so the total of a summary grows by the number of
files that the walk covers. -/
theorem visits_exhaust (formed : fs.WellFormed) (access : fs.Accessible) {root : Path}
    {start : Location} (located : fs.locate root = .ok start)
    (directory : fs.isDirectoryAt start = true)
    (within : fs.WithinLimits (assetType.visits fs root)) :
    assetType.Exhausts fs start (assetType.visits fs root) ∧
      ∀ summary : Summary, (summary.recordWalk assetType fs root).totalFiles =
        summary.totalFiles + {entry | assetType.Covers fs start entry}.ncard := by
  have isDir : fs.isDirectory root = true :=
    FileSystem.isDirectory_iff.2 ⟨start, located, directory⟩
  have whole : assetType.visits fs root = (assetType.walkDirectory fs root []).visits := by
    have present : fs.exists? root = true := by
      unfold FileSystem.exists?
      rw [located]
      rfl
    simp [visits, present, isDir]
  have finds := access.finds formed located directory
  rw [whole] at within
  have covered := mem_records_iff formed access finds within
  have once : (records (assetType.walkDirectory fs root []).visits).Nodup :=
    nodup_records formed isDir
  refine ⟨?_, ?_⟩
  · rw [whole]
    constructor
    case listed_once => exact (listsOnce_visits isDir).once
    case listed_iff => exact mem_listings_iff formed access finds within
    case recorded_once => exact once
    case recorded_iff => exact covered
    case validated =>
      intro inner name outcome member
      obtain ⟨path, listed, same⟩ := outcome_of_mem_visits formed isDir member
      exact ⟨path, listed, finds_of_mem_listings isDir listed, same⟩
  · intro summary
    have same : {entry | assetType.Covers fs start entry} =
        ↑(records (assetType.walkDirectory fs root []).visits).toFinset := by
      ext entry
      simp [covered]
    unfold Summary.recordWalk
    rw [whole, Summary.totalFiles_recordVisits, same, Set.ncard_coe_finset,
      List.toFinset_card_of_nodup once]

end AssetType

/-- The root and a directory below it, with a link back to the root and an alias. -/
def FileSystem.looped : FileSystem where
  nodes := [(["a"], .directory 0o755), (["loop", "a"], .link ⟨".."⟩),
    (["n", "a"], .file ⟨#[]⟩ 0o644), (["b"], .link ⟨"a"⟩)]

def AssetType.notes : AssetType where
  name := "notes"
  directory := ⟨"."⟩
  pattern := ⟨"n", .literal ['n']⟩
  required := ["title"]
  optional := []
  probes := []

section

open AssetType FileSystem

theorem listings_looped :
    listings (notes.visits looped ⟨"/"⟩) = [([], ⟨"/"⟩), (["a"], ⟨"/a"⟩)] := by
  have present : looped.exists? ⟨"/"⟩ = true := rfl
  have rootDir : looped.isDirectory ⟨"/"⟩ = true := rfl
  have rootAt : looped.canonical ⟨"/"⟩ = .ok [] := rfl
  have rootNode : looped.isDirectoryAt [] = true := rfl
  have rootList : looped.list ⟨"/"⟩ = .ok [.ok "a", .ok "b"] := rfl
  have rootEntries : sortedEntries ⟨"/"⟩ [.ok "a", .ok "b"] = [⟨"/a"⟩, ⟨"/b"⟩] :=
    List.mergeSort_of_pairwise (by decide)
  have innerDir : looped.isDirectory ⟨"/a"⟩ = true := rfl
  have innerAt : looped.canonical ⟨"/a"⟩ = .ok ["a"] := rfl
  have innerNode : looped.isDirectoryAt ["a"] = true := rfl
  have innerList : looped.list ⟨"/a"⟩ = .ok [.ok "loop", .ok "n"] := rfl
  have innerEntries : sortedEntries ⟨"/a"⟩ [.ok "loop", .ok "n"] = [⟨"/a/loop"⟩, ⟨"/a/n"⟩] :=
    List.mergeSort_of_pairwise (by decide)
  have loopDir : looped.isDirectory ⟨"/a/loop"⟩ = true := rfl
  have loopAt : looped.canonical ⟨"/a/loop"⟩ = .ok [] := rfl
  have fileDir : looped.isDirectory ⟨"/a/n"⟩ = false := rfl
  have fileName : (Path.fileName? ⟨"/a/n"⟩).filter notes.matchesName = some "n" := rfl
  have aliasDir : looped.isDirectory ⟨"/b"⟩ = true := rfl
  have aliasAt : looped.canonical ⟨"/b"⟩ = .ok ["a"] := rfl
  simp [visits, walkDirectory, walkEntries, *]

theorem AssetType.visits_exhaust_looped :
    looped.WellFormed ∧ looped.Accessible ∧ notes.Exhausts looped [] (notes.visits looped ⟨"/"⟩) ∧
      ∀ summary : Summary, (summary.recordWalk notes looped ⟨"/"⟩).totalFiles =
        summary.totalFiles + {entry | notes.Covers looped [] entry}.ncard := by
  have formed : looped.WellFormed := by decide
  have access : looped.Accessible := by decide
  refine ⟨formed, access, visits_exhaust formed access rfl rfl ?_⟩
  have short : ∀ listing ∈ [([], Path.mk "/"), (["a"], ⟨"/a"⟩)],
      ∀ name ∈ looped.namesAt listing.1,
        ¬ ExceedsLimit (looped.locate (listing.2.join ⟨name⟩)) := by decide
  intro listing member name goal leads
  rw [listings_looped] at member
  exact short listing member name leads.1

end

end AssetLint
