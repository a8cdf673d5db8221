import Mathlib.Data.List.Perm.Subperm
import AssetLint.Proofs.Walk.Records

/-!
That a walk ends. `walkWithin` is the walk as a recursion on how deep its calls may nest, with a log
of the calls and of the directories that a listing is asked of. A call within another comes with the
directory of the other seen, and the other came without (`FileSystem.Descends`). So at every call
fewer directories are left to be seen, although its path is longer (`Descends.unseen_lt`), and no
directory is asked twice. However links loop, calls nest no deeper than there are directories, and
to this depth the walk is that of `walkDirectory` (`walkWithin_eq`).
-/
namespace AssetLint

/-- A call of a walk: the path of a directory, and what is seen by then. -/
structure Call where
  path : Path
  seen : List Location

structure WalkLog where
  visits : List Visit
  /-- The directories that a listing was asked of, in order. -/
  asked : List Location
  /-- The calls within others, each with the one that it is within. -/
  calls : List (Call × Call)
  seenAfter : List Location

namespace WalkLog

/-- Visits that ask for no listing. -/
def quiet (visits : List Visit) (seen : List Location) : WalkLog :=
  ⟨visits, [], [], seen⟩

def append (first second : WalkLog) : WalkLog where
  visits := first.visits ++ second.visits
  asked := first.asked ++ second.asked
  calls := first.calls ++ second.calls
  seenAfter := second.seenAfter

def calledBy (log : WalkLog) (outer inner : Call) : WalkLog :=
  { log with calls := (outer, inner) :: log.calls }

end WalkLog

namespace AssetType

/-- Visits entries in order, those that are directories by calls of `walk`. -/
def walkEach (assetType : AssetType) (fs : FileSystem)
    (walk : Path → List Location → Option WalkLog) (directory : Location) (outer : Call) :
    List Path → List Location → Option WalkLog
  | [], seen => some (.quiet [] seen)
  | path :: rest, seen =>
    if fs.isDirectory path then do
      let inside ← walk path seen
      let after ← walkEach assetType fs walk directory outer rest inside.seenAfter
      return (inside.calledBy outer ⟨path, seen⟩).append after
    else
      match path.fileName?.filter assetType.matchesName with
      | some name => do
        let after ← walkEach assetType fs walk directory outer rest seen
        return (WalkLog.quiet [.file directory name (assetType.validateFile fs path)] seen).append
          after
      | none => walkEach assetType fs walk directory outer rest seen

/-- Visits a directory and all that is in it, unless calls nest as deep as that. -/
def walkWithin (assetType : AssetType) (fs : FileSystem) :
    Nat → Path → List Location → Option WalkLog
  | 0, _, _ => none
  | depth + 1, path, seen =>
    match fs.canonical path with
    | .error error => some (.quiet [unreadable path error] seen)
    | .ok location =>
      if seen.contains location then some (.quiet [.known location path] seen)
      else
        match fs.list path with
        | .error error => some ⟨[unreadable path error], [location], [], location :: seen⟩
        | .ok entries => do
          let inside ← assetType.walkEach fs (assetType.walkWithin fs depth) location ⟨path, seen⟩
            (sortedEntries path entries) (location :: seen)
          return WalkLog.append
            ⟨.listed location path :: unreadableEntries path entries, [location], [],
              location :: seen⟩ inside

end AssetType

/-- The inner call is on an entry of the directory of the outer one, which is new to the outer call
and seen by the inner. -/
structure FileSystem.Descends (fs : FileSystem) (location : Location) (outer inner : Call) :
    Prop where
  canonical : fs.canonical outer.path = .ok location
  directory : fs.isDirectoryAt location = true
  fresh : location ∉ outer.seen
  kept : location :: outer.seen ⊆ inner.seen
  entry : ∃ name, inner.path = outer.path.join ⟨name⟩

namespace FileSystem.Descends

variable {fs : FileSystem} {location : Location} {outer inner : Call}

theorem mono {path : Path} {seen later : List Location}
    (descends : fs.Descends location outer ⟨path, seen⟩) (kept : seen ⊆ later) :
    fs.Descends location outer ⟨path, later⟩ :=
  { descends with kept := List.Subset.trans descends.kept kept }

/-- The directories that are not seen yet are fewer within a call. -/
theorem unseen_lt (descends : fs.Descends location outer inner) :
    fs.unseen inner.seen < fs.unseen outer.seen :=
  Nat.lt_of_le_of_lt (unseen_le descends.kept)
    (unseen_cons_lt descends.directory (by simpa using descends.fresh))

end FileSystem.Descends

/-- What is seen by the end is what was seen at the start and the directories asked, all of them new
and none of them asked twice. -/
structure WalkLog.Sound (fs : FileSystem) (seen : List Location) (log : WalkLog) : Prop where
  grown : log.seenAfter = log.asked.reverse ++ seen
  fresh : ∀ location ∈ log.asked, fs.isDirectoryAt location = true ∧ location ∉ seen
  once : log.asked.Nodup
  listed : ((listings log.visits).map Prod.fst).Sublist log.asked
  descends : ∀ pair ∈ log.calls, ∃ location, fs.Descends location pair.1 pair.2

namespace WalkLog.Sound

variable {fs : FileSystem} {seen : List Location} {first second log : WalkLog}

theorem kept (sound : Sound fs seen log) : seen ⊆ log.seenAfter := by
  rw [sound.grown]
  exact List.subset_append_right _ _

theorem quiet {visits : List Visit} (unlisted : listings visits = []) :
    Sound fs seen (.quiet visits seen) where
  grown := rfl
  fresh := by simp [WalkLog.quiet]
  once := .nil
  listed := by simp [WalkLog.quiet, unlisted]
  descends := by simp [WalkLog.quiet]

/-- A new directory is asked for a listing. -/
theorem asked {visits : List Visit} {location : Location}
    (directory : fs.isDirectoryAt location = true) (fresh : location ∉ seen)
    (listed : ((listings visits).map Prod.fst).Sublist [location]) :
    Sound fs seen ⟨visits, [location], [], location :: seen⟩ where
  grown := rfl
  fresh := by simpa using ⟨directory, fresh⟩
  once := by simp
  listed := listed
  descends := by simp

theorem append (before : Sound fs seen first) (after : Sound fs first.seenAfter second) :
    Sound fs seen (first.append second) where
  grown := by
    simp only [WalkLog.append, after.grown, before.grown, List.reverse_append, List.append_assoc]
  fresh := by
    intro location member
    rcases List.mem_append.1 member with early | late
    · exact before.fresh location early
    · obtain ⟨directory, new⟩ := after.fresh location late
      exact ⟨directory, fun old => new (before.kept old)⟩
  once := by
    refine List.nodup_append.2 ⟨before.once, after.once, fun location early other late same => ?_⟩
    refine (after.fresh other late).2 ?_
    rw [before.grown, ← same]
    exact List.mem_append_left _ (List.mem_reverse.2 early)
  listed := by
    simp only [WalkLog.append, listings_append, List.map_append]
    exact before.listed.append after.listed
  descends := by
    intro pair member
    exact (List.mem_append.1 member).elim (before.descends pair) (after.descends pair)

theorem calledBy {location : Location} {outer inner : Call} (sound : Sound fs seen log)
    (descends : fs.Descends location outer inner) : Sound fs seen (log.calledBy outer inner) :=
  { sound with
    descends := List.forall_mem_cons.2 ⟨⟨location, descends⟩, sound.descends⟩ }

/-- A directory is asked for a listing once, so no more often than there are directories that were
not seen. -/
theorem length_asked_le (sound : Sound fs seen log) : log.asked.length ≤ fs.unseen seen := by
  rw [FileSystem.unseen, List.countP_eq_length_filter]
  refine (sound.once.subperm fun location member => ?_).length_le
  obtain ⟨directory, fresh⟩ := sound.fresh location member
  exact List.mem_filter.2 ⟨FileSystem.mem_directories.2 directory, by simpa using fresh⟩

end WalkLog.Sound

namespace AssetType

variable {assetType : AssetType} {fs : FileSystem} {path : Path} {seen : List Location}

/-- Where calls may nest deeper than there are directories that are not seen yet, the walk ends, and
with what `walkDirectory` gives. -/
theorem walkWithin_eq {depth : Nat} (enough : fs.unseen seen < depth)
    (isDir : fs.isDirectory path = true) :
    ∃ log, assetType.walkWithin fs depth path seen = some log ∧
      log.visits = (assetType.walkDirectory fs path seen).visits ∧
      log.seenAfter = (assetType.walkDirectory fs path seen).seenAfter ∧ log.Sound fs seen := by
  -- What is left of the depth is more than what is left of the directories at every call.
  refine (walk_induction assetType fs
    (P := fun path seen visits after => ∀ depth, fs.unseen seen < depth →
      ∃ log, assetType.walkWithin fs depth path seen = some log ∧ log.visits = visits ∧
        log.seenAfter = after ∧ log.Sound fs seen)
    (Q := fun directory paths seen visits after => ∀ depth outer, fs.unseen seen < depth →
      (∀ path ∈ paths, fs.Descends directory outer ⟨path, seen⟩) →
      ∃ log, assetType.walkEach fs (assetType.walkWithin fs depth) directory outer paths seen =
          some log ∧ log.visits = visits ∧ log.seenAfter = after ∧ log.Sound fs seen)
    ?uncanonical ?known ?unlisted ?listed ?nil ?inner ?file ?skipped).1 path seen isDir depth enough
  case uncanonical =>
    intro path seen error _ failed depth enough
    obtain ⟨depth, rfl⟩ := Nat.exists_eq_add_of_lt enough
    rw [walkWithin, failed]
    exact ⟨_, rfl, rfl, rfl, .quiet rfl⟩
  case known =>
    intro path seen location finds stale depth enough
    obtain ⟨depth, rfl⟩ := Nat.exists_eq_add_of_lt enough
    rw [walkWithin, finds.canonical]
    simp only [List.contains_eq_mem, stale, decide_true, ↓reduceIte]
    exact ⟨_, rfl, rfl, rfl, .quiet rfl⟩
  case unlisted =>
    intro path seen location error finds fresh failed depth enough
    obtain ⟨depth, rfl⟩ := Nat.exists_eq_add_of_lt enough
    rw [← finds.list_eq] at failed
    rw [walkWithin, finds.canonical]
    simp only [List.contains_eq_mem, fresh, decide_false, Bool.false_eq_true, ↓reduceIte, failed]
    exact ⟨_, rfl, rfl, rfl, .asked finds.directory fresh (List.nil_sublist _)⟩
  case listed =>
    intro path seen location entries visits after finds fresh listing inside depth enough
    cases depth with
    | zero => exact absurd enough (Nat.not_lt_zero _)
    | succ depth =>
      have fewer : fs.unseen (location :: seen) < fs.unseen seen :=
        FileSystem.unseen_cons_lt finds.directory (by simpa using fresh)
      obtain ⟨log, ran, rfl, rfl, sound⟩ := inside depth ⟨path, seen⟩ (by omega) (by
        intro inner member
        obtain ⟨name, _, same⟩ := mem_sortedEntries.1 member
        exact ⟨finds.canonical, finds.directory, fresh, List.Subset.refl _, name, same⟩)
      rw [← finds.list_eq] at listing
      rw [walkWithin, finds.canonical]
      simp only [List.contains_eq_mem, fresh, decide_false, Bool.false_eq_true, ↓reduceIte, listing,
        ran]
      exact ⟨_, rfl, rfl, rfl, (WalkLog.Sound.asked finds.directory fresh (by simp)).append sound⟩
  case nil =>
    intro directory seen depth outer _ _
    exact ⟨_, rfl, rfl, rfl, .quiet rfl⟩
  case inner =>
    intro directory path rest seen visits middle others after isDir inside further
      depth outer enough descends
    obtain ⟨log, ran, rfl, rfl, sound⟩ := inside depth enough
    have fewer := @FileSystem.unseen_le fs _ _ sound.kept
    obtain ⟨rests, later, rfl, rfl, thereafter⟩ := further depth outer (by omega)
      fun path member => (descends path (List.mem_cons_of_mem _ member)).mono sound.kept
    rw [walkEach, if_pos isDir, ran]
    simp only [Option.bind_eq_bind, Option.bind_some, later]
    exact ⟨_, rfl, rfl, rfl, (sound.calledBy (descends path List.mem_cons_self)).append thereafter⟩
  case file =>
    intro directory path rest seen name visits after notDir matched further
      depth outer enough descends
    obtain ⟨log, ran, rfl, rfl, sound⟩ := further depth outer enough fun path member =>
      descends path (List.mem_cons_of_mem _ member)
    rw [walkEach, if_neg (by simp [notDir]), matched]
    simp only [ran]
    exact ⟨_, rfl, rfl, rfl, (WalkLog.Sound.quiet rfl).append sound⟩
  case skipped =>
    intro directory path rest seen visits after notDir unmatched further
      depth outer enough descends
    rw [walkEach, if_neg (by simp [notDir]), unmatched]
    exact further depth outer enough fun path member =>
      descends path (List.mem_cons_of_mem _ member)

/-- What can be listed is a directory. -/
theorem isDirectory_of_list {entries : List (Except IoError String)}
    (listing : fs.list path = .ok entries) : fs.isDirectory path = true := by
  unfold FileSystem.list at listing
  cases located : fs.locate path with
  | error error => rw [located] at listing; cases listing
  | ok location =>
    rw [located] at listing
    refine FileSystem.isDirectory_iff.2 ⟨location, located, ?_⟩
    change fs.listAt location = .ok entries at listing
    unfold FileSystem.listAt at listing
    unfold FileSystem.isDirectoryAt
    split at listing
    · next found => rw [found]
    · cases listing
    · cases listing

/-- The walk ends from every path, one of a directory or not. -/
theorem walkWithin_ends {depth : Nat} (enough : fs.unseen seen < depth) :
    (assetType.walkWithin fs depth path seen).isSome = true := by
  cases isDir : fs.isDirectory path with
  | true =>
    obtain ⟨log, ran, _⟩ := @walkWithin_eq assetType fs path seen _ enough isDir
    rw [ran]
    rfl
  | false =>
    obtain ⟨depth, rfl⟩ := Nat.exists_eq_add_of_lt enough
    unfold walkWithin
    split
    · rfl
    · split
      · rfl
      · split
        · rfl
        · next entries listing =>
          cases isDir.symm.trans (isDirectory_of_list listing)

/-- A walk ends, whatever the file system and wherever it starts. No more depth of calls is needed
than there are directories that are not seen yet, and within it the walk is that of a run. What a
call has seen grows by just the directories that a listing is asked of, each new and asked once,
whether or not the listing comes about. Every call within another finds the directory of the other
seen first, and so leaves fewer to be seen, however long its path. -/
theorem walk_ends (assetType : AssetType) (fs : FileSystem) :
    (∀ path seen depth, fs.unseen seen < depth →
      (assetType.walkWithin fs depth path seen).isSome = true) ∧
    ∀ path seen depth, fs.isDirectory path = true → fs.unseen seen < depth →
      ∃ log, assetType.walkWithin fs depth path seen = some log ∧
        log.visits = (assetType.walkDirectory fs path seen).visits ∧
        log.seenAfter = (assetType.walkDirectory fs path seen).seenAfter ∧
        log.seenAfter = log.asked.reverse ++ seen ∧
        log.asked.Nodup ∧
        (∀ location ∈ log.asked, fs.isDirectoryAt location = true ∧ location ∉ seen) ∧
        ((listings log.visits).map Prod.fst).Sublist log.asked ∧
        log.asked.length ≤ fs.unseen seen ∧
        ∀ outer inner, (outer, inner) ∈ log.calls →
          (∃ location, fs.Descends location outer inner) ∧
            fs.unseen inner.seen < fs.unseen outer.seen := by
  refine ⟨fun _ _ _ enough => walkWithin_ends enough, fun path seen depth isDir enough => ?_⟩
  obtain ⟨log, ran, visits, after, sound⟩ := @walkWithin_eq assetType fs path seen _ enough isDir
  refine ⟨log, ran, visits, after, sound.grown, sound.once, sound.fresh, sound.listed,
    sound.length_asked_le, fun outer inner member => ?_⟩
  obtain ⟨location, descends⟩ := sound.descends _ member
  exact ⟨⟨location, descends⟩, descends.unseen_lt⟩

end AssetType

section

open AssetType FileSystem

theorem walk_ends_looped :
    looped.isDirectory ⟨"/"⟩ = true ∧ looped.unseen [] = 2 ∧
      (∃ log, notes.walkWithin looped 3 ⟨"/"⟩ [] = some log ∧
        log.visits = (notes.walkDirectory looped ⟨"/"⟩ []).visits ∧ log.asked.Nodup ∧
        log.asked.length ≤ 2) ∧
      looped.canonical ⟨"/a/loop"⟩ = looped.canonical ⟨"/"⟩ ∧
      looped.Descends ["a"] ⟨⟨"/a"⟩, [[]]⟩ ⟨⟨"/a/loop"⟩, [["a"], []]⟩ := by
  have isDir : looped.isDirectory ⟨"/"⟩ = true := rfl
  have unseen : looped.unseen [] = 2 := rfl
  obtain ⟨log, ran, visits, _, _, once, _, _, few, _⟩ :=
    (walk_ends notes looped).2 ⟨"/"⟩ [] 3 isDir (by rw [unseen]; decide)
  refine ⟨isDir, unseen, ⟨log, ran, visits, once, unseen ▸ few⟩, rfl, ?_⟩
  exact ⟨rfl, rfl, by decide, by decide, "loop", rfl⟩

end

end AssetLint
