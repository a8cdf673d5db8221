import AssetLint.Proofs.Registry.ExitStatus
import AssetLint.Proofs.Summary.Order
import AssetLint.Proofs.Walk.Records

/-!
The order in which a walk reports. Only the entries of one directory are ever sorted, but
everything under one entry comes before everything under the next, and a directory is warned of
before what is in it; so the reports of a whole walk are in the order of their paths. No two
files share a path, nor do a file and a directory.
-/
namespace AssetLint

namespace Visit

/-- The path that a visit reports on. -/
def path? : Visit → Option Path
  | .file _ _ outcome => some outcome.path
  | .warning issue => some issue.file
  | .listed .. | .known .. => none

def issues : Visit → List Issue
  | .file _ _ outcome => outcome.issues
  | .warning issue => [issue]
  | .listed .. | .known .. => []

/-- The right visit reports on a later path, or both warn of one directory. -/
def Precedes (left right : Visit) : Prop :=
  ∀ first ∈ left.path?, ∀ last ∈ right.path?, first.key < last.key ∨
    first = last ∧ left.outcome? = none ∧ right.outcome? = none

end Visit

namespace AssetType

variable {assetType : AssetType} {fs : FileSystem} {root : Path}

/-- The reports are in order, and each is on something under one of the paths. -/
structure ReportsInOrder (paths : List Path) (visits : List Visit) : Prop where
  below : ∀ visit ∈ visits, ∀ inner ∈ visit.path?, ∃ path ∈ paths, inner.startsWith path = true
  ordered : visits.Pairwise Visit.Precedes

namespace ReportsInOrder

variable {paths more : List Path} {visits others : List Visit}

theorem nil : ReportsInOrder paths [] where
  below := fun _ member => nomatch member
  ordered := .nil

theorem single {path : Path} {visit : Visit} (about : ∀ inner ∈ visit.path?, inner = path) :
    ReportsInOrder [path] [visit] := by
  refine ⟨fun other member inner reported => ?_, List.pairwise_singleton _ _⟩
  cases List.mem_singleton.1 member
  exact ⟨path, List.mem_singleton_self path, about inner reported ▸ Path.startsWith_self path⟩

theorem mono (within : ∀ path ∈ paths, path ∈ more) (reports : ReportsInOrder paths visits) :
    ReportsInOrder more visits := by
  refine ⟨fun visit member inner reported => ?_, reports.ordered⟩
  obtain ⟨path, among, under⟩ := reports.below visit member inner reported
  exact ⟨path, within path among, under⟩

theorem append (apart : ∀ path ∈ paths, ∀ other ∈ more, path.Precedes other)
    (first : ReportsInOrder paths visits) (second : ReportsInOrder more others) :
    ReportsInOrder (paths ++ more) (visits ++ others) where
  below := by
    intro visit member inner reported
    rcases List.mem_append.1 member with member | member
    · obtain ⟨path, among, under⟩ := first.below visit member inner reported
      exact ⟨path, List.mem_append_left _ among, under⟩
    · obtain ⟨path, among, under⟩ := second.below visit member inner reported
      exact ⟨path, List.mem_append_right _ among, under⟩
  ordered := by
    refine List.pairwise_append.2 ⟨first.ordered, second.ordered, ?_⟩
    intro left early right late start reported finish noted
    obtain ⟨path, among, under⟩ := first.below left early start reported
    obtain ⟨other, beside, below⟩ := second.below right late finish noted
    exact .inl (apart path among other beside start finish under below)

end ReportsInOrder

theorem pairwise_sortedEntries (path : Path) (entries : List (Except IoError String)) :
    (sortedEntries path entries).Pairwise fun inner other => inner.le other = true :=
  List.pairwise_mergeSort Path.le_trans Path.le_total _

theorem perm_sortedEntries (path : Path) (entries : List (Except IoError String)) :
    (sortedEntries path entries).Perm
      ((entries.filterMap Except.toOption).map fun name => path.join ⟨name⟩) :=
  List.mergeSort_perm _ _

/-- Everything under an entry of a listing comes before everything under the next. -/
theorem precedes_sortedEntries (formed : fs.WellFormed) {location : Location}
    {entries : List (Except IoError String)} (listing : fs.listAt location = .ok entries)
    (path : Path) : (sortedEntries path entries).Pairwise Path.Precedes := by
  have proper : ∀ name, .ok name ∈ entries → IsFileName name := fun name given =>
    formed.isFileName (FileSystem.mem_namesAt_of_listAt listing given)
  refine ((pairwise_sortedEntries path entries).and
    (apart_sortedEntries formed listing path)).imp_of_mem ?_
  rintro left right here there ⟨le, differ⟩
  obtain ⟨name, given, rfl⟩ := mem_sortedEntries.1 here
  obtain ⟨other, also, rfl⟩ := mem_sortedEntries.1 there
  refine Path.precedes_join path (proper name given) (proper other also) ?_
  refine lt_of_le_of_ne ((Path.le_join_iff path (proper name given) (proper other also)).1 le) ?_
  exact fun same => differ (by rw [Path.Component.nameBytes_injective same])

/-- The warnings about a directory come before the reports on what is in it. -/
theorem reportsInOrder_listed (formed : fs.WellFormed) {location : Location} {path : Path}
    {entries : List (Except IoError String)} {visits : List Visit}
    (listing : fs.listAt location = .ok entries)
    (inside : ReportsInOrder (sortedEntries path entries) visits) :
    ReportsInOrder [path]
      (.listed location path :: (unreadableEntries path entries ++ visits)) := by
  have above : ∀ visit ∈ visits, ∀ inner ∈ visit.path?, ∃ name, IsFileName name ∧
      inner.startsWith (path.join ⟨name⟩) = true := by
    intro visit member inner reported
    obtain ⟨entry, among, under⟩ := inside.below visit member inner reported
    obtain ⟨name, given, rfl⟩ := mem_sortedEntries.1 among
    exact ⟨name, formed.isFileName (FileSystem.mem_namesAt_of_listAt listing given), under⟩
  have about : ∀ visit ∈ unreadableEntries path entries, visit.outcome? = none ∧
      ∀ inner ∈ visit.path?, inner = path := by
    intro visit member
    obtain ⟨issue, rfl, file, _⟩ := mem_unreadableEntries member
    exact ⟨rfl, fun inner reported => (Option.some.inj reported).symm.trans file⟩
  constructor
  case below =>
    intro visit member inner reported
    refine ⟨path, List.mem_singleton_self path, ?_⟩
    rw [List.mem_cons, List.mem_append] at member
    rcases member with rfl | failed | member
    · cases reported
    · rw [(about visit failed).2 inner reported]
      exact Path.startsWith_self path
    · obtain ⟨name, proper, under⟩ := above visit member inner reported
      exact Path.startsWith_trans under (Path.startsWith_join proper (Path.startsWith_self path))
  case ordered =>
    refine List.pairwise_cons.2 ⟨fun _ _ => nofun, List.pairwise_append.2 ⟨?_, inside.ordered, ?_⟩⟩
    · refine List.pairwise_of_forall_mem_list fun left here right there => ?_
      intro first reported last noted
      refine .inr ⟨?_, (about left here).1, (about right there).1⟩
      rw [(about left here).2 first reported, (about right there).2 last noted]
    · intro left here right there first reported last noted
      obtain ⟨name, proper, under⟩ := above right there last noted
      rw [(about left here).2 first reported]
      exact .inl (Path.key_lt_of_startsWith_join proper under)

theorem reportsInOrder_walkDirectory (formed : fs.WellFormed) {path : Path}
    {seen : List Location} (isDir : fs.isDirectory path = true) :
    ReportsInOrder [path] (assetType.walkDirectory fs path seen).visits := by
  refine (walk_induction assetType fs
    (P := fun path _ visits _ => ReportsInOrder [path] visits)
    (Q := fun _ paths _ visits _ => paths.Pairwise Path.Precedes → ReportsInOrder paths visits)
    ?uncanonical ?known ?unlisted ?listed ?nil ?inner ?file ?skipped).1 path seen isDir
  case uncanonical =>
    intro path _ error _ _
    exact .single fun inner reported => (Option.some.inj reported).symm
  case known =>
    intro path _ location _ _
    exact .single nofun
  case unlisted =>
    intro path _ location error _ _ _
    exact .single fun inner reported => (Option.some.inj reported).symm
  case listed =>
    intro path _ location entries visits _ _ _ listing inside
    exact reportsInOrder_listed formed listing
      (inside (precedes_sortedEntries formed listing path))
  case nil =>
    intro _ _ _
    exact .nil
  case inner =>
    intro _ path rest _ visits _ others _ _ inside after apart
    obtain ⟨onward, later⟩ := List.pairwise_cons.1 apart
    exact inside.append (by simpa using onward) (after later)
  case file =>
    intro directory path rest _ name visits _ _ _ after apart
    obtain ⟨onward, later⟩ := List.pairwise_cons.1 apart
    have own : ReportsInOrder [path] [.file directory name (assetType.validateFile fs path)] := by
      refine .single fun inner reported => ?_
      rw [← path_validateFile assetType fs path]
      exact (Option.some.inj reported).symm
    exact own.append (by simpa using onward) (after later)
  case skipped =>
    intro _ path rest _ _ _ _ _ after apart
    exact (after (List.pairwise_cons.1 apart).2).mono fun _ => List.mem_cons_of_mem path

theorem ordered_visits (formed : fs.WellFormed) :
    (assetType.visits fs root).Pairwise Visit.Precedes := by
  rcases visits_eq assetType fs root with ⟨issue, _, _, shape⟩ | ⟨present, shape⟩
  · rw [shape]
    exact List.pairwise_singleton _ _
  · rw [shape]
    exact (reportsInOrder_walkDirectory formed present).ordered

/-- Every recorded file has a later path than the one recorded before. -/
theorem ordered_outcomes (formed : fs.WellFormed) : (assetType.outcomes fs root).Pairwise
    fun earlier later => earlier.path.key < later.path.key := by
  refine (ordered_visits formed).filterMap _ fun left right precedes first early last late => ?_
  cases left <;> cases early
  cases right <;> cases late
  exact (precedes _ rfl _ rfl).resolve_right fun same => nomatch same.2.1

/-- The issues that a walk records, in order. -/
def issues (assetType : AssetType) (fs : FileSystem) (root : Path) : List Issue :=
  (assetType.visits fs root).flatMap Visit.issues

/-- An issue is about the path that its visit reports on. -/
theorem path?_of_mem_issues {visit : Visit} (reports : assetType.Reports fs visit) {issue : Issue}
    (member : issue ∈ visit.issues) : visit.path? = some issue.file := by
  cases visit with
  | file directory name outcome =>
    obtain ⟨path, rfl⟩ := reports
    exact congrArg some (isLocal_validateFile assetType fs path issue member).symm
  | warning warned => rw [List.mem_singleton.1 member]; rfl
  | listed location path => cases member
  | known location path => cases member

/-- What a visit reports besides a file is about a directory. -/
theorem kind_of_mem_issues {visit : Visit} (reports : assetType.Reports fs visit)
    (plain : visit.outcome? = none) {issue : Issue} (member : issue ∈ visit.issues) :
    issue.kind = .directory := by
  cases visit with
  | file directory name outcome => cases plain
  | warning warned => rw [List.mem_singleton.1 member]; exact reports
  | listed location path => cases member
  | known location path => cases member

theorem ordered_issues (formed : fs.WellFormed) :
    (assetType.issues fs root).Pairwise Issue.Precedes := by
  refine List.pairwise_flatMap.2 ⟨fun visit member => ?_, ?_⟩
  · have reports := reports_visits visit member
    cases visit with
    | file directory name outcome =>
      obtain ⟨path, rfl⟩ := reports
      have about := isLocal_validateFile assetType fs path
      refine (checked_validateFile assetType fs path).imp_of_mem ?_
      intro left right here there place
      exact .inr ⟨(about left here).trans (about right there).symm, place⟩
    | warning issue => exact List.pairwise_singleton _ _
    | listed location path => exact .nil
    | known location path => exact .nil
  · refine (ordered_visits formed).imp_of_mem ?_
    intro left right here there precedes first early last late
    have begun := reports_visits left here
    have ended := reports_visits right there
    rcases precedes _ (path?_of_mem_issues begun early) _ (path?_of_mem_issues ended late) with
      less | ⟨same, plain, bare⟩
    · exact .inl less
    · refine .inr ⟨same, ?_⟩
      rw [kind_of_mem_issues begun plain early, kind_of_mem_issues ended bare late]

end AssetType

/-- The lists of a summary grow by the issues of the visits. -/
theorem Summary.lists_recordVisits (summary : Summary) (visits : List Visit) :
    (visits.foldl recordVisit summary).errors =
        summary.errors ++ (visits.flatMap Visit.issues).filter Issue.isError ∧
      (visits.foldl recordVisit summary).warnings =
        summary.warnings ++ (visits.flatMap Visit.issues).filter fun issue => !issue.isError := by
  induction visits generalizing summary with
  | nil => simp
  | cons visit rest ih =>
    rw [List.foldl_cons, (ih _).1, (ih _).2, List.flatMap_cons, List.filter_append,
      List.filter_append, ← List.append_assoc, ← List.append_assoc]
    cases visit with
    | file directory name outcome => simp [recordVisit, recordFile_eq, Visit.issues]
    | warning issue =>
      cases grave : issue.isError <;> simp [recordVisit, recordIssue, grave, Visit.issues]
    | listed location path => simp [recordVisit, Visit.issues]
    | known location path => simp [recordVisit, Visit.issues]

namespace AssetType

variable {assetType : AssetType} {fs : FileSystem} {root : Path}

/-- The errors and the warnings of a walk are in the order of their paths and checks, files are
recorded in the order of their paths, and sorting all issues by file gives the same lists,
however the files were taken. -/
theorem recordWalk_in_path_order (formed : fs.WellFormed) :
    InPathOrder (Summary.empty.recordWalk assetType fs root).errors ∧
      InPathOrder (Summary.empty.recordWalk assetType fs root).warnings ∧
      ((assetType.outcomes fs root).Pairwise fun earlier later =>
        earlier.path.key < later.path.key) ∧
      ∀ issues : List Issue, issuesOf issues = issuesOf (assetType.issues fs root) →
        (Summary.empty.recordWalk assetType fs root).errors =
            (issues.mergeSort Issue.fileLe).filter Issue.isError ∧
          (Summary.empty.recordWalk assetType fs root).warnings =
            (issues.mergeSort Issue.fileLe).filter fun issue => !issue.isError := by
  have ordered : (assetType.issues fs root).Pairwise Issue.Precedes := ordered_issues formed
  obtain ⟨errors, warnings⟩ :=
    Summary.lists_recordVisits Summary.empty (assetType.visits fs root)
  change (Summary.empty.recordWalk assetType fs root).errors =
    (assetType.issues fs root).filter Issue.isError at errors
  change (Summary.empty.recordWalk assetType fs root).warnings =
    (assetType.issues fs root).filter (fun issue => !issue.isError) at warnings
  refine ⟨?_, ?_, ordered_outcomes formed, fun issues same => ?_⟩
  · rw [errors]
    exact inPathOrder_of_precedes (ordered.filter _)
  · rw [warnings]
    exact inPathOrder_of_precedes (ordered.filter _)
  · rw [mergeSort_eq_of_issuesOf_eq ordered same]
    exact ⟨errors, warnings⟩

end AssetType

/-- A file in a directory and one beside it, whose text comes first but not its path. -/
def FileSystem.siblings : FileSystem where
  nodes := [(["a"], .directory 0o755), (["n", "a"], .file ⟨#[]⟩ 0o644),
    (["a.n"], .file ⟨#[]⟩ 0o644)]

section

open AssetType FileSystem

def Issue.bare (file : Path) : Issue :=
  ⟨file, .missingFrontMatter, "Missing or invalid front-matter"⟩

theorem visits_siblings :
    notes.visits siblings ⟨"/"⟩ = [.listed [] ⟨"/"⟩, .listed ["a"] ⟨"/a"⟩,
      .file ["a"] "n" (notes.validateFile siblings ⟨"/a/n"⟩),
      .file [] "a.n" (notes.validateFile siblings ⟨"/a.n"⟩)] := by
  have present : siblings.exists? ⟨"/"⟩ = true := rfl
  have rootDir : siblings.isDirectory ⟨"/"⟩ = true := rfl
  have rootAt : siblings.canonical ⟨"/"⟩ = .ok [] := rfl
  have rootNode : siblings.isDirectoryAt [] = true := rfl
  have rootList : siblings.list ⟨"/"⟩ = .ok [.ok "a", .ok "a.n"] := rfl
  have rootEntries : sortedEntries ⟨"/"⟩ [.ok "a", .ok "a.n"] = [⟨"/a"⟩, ⟨"/a.n"⟩] :=
    List.mergeSort_of_pairwise (by decide)
  have innerDir : siblings.isDirectory ⟨"/a"⟩ = true := rfl
  have innerAt : siblings.canonical ⟨"/a"⟩ = .ok ["a"] := rfl
  have innerNode : siblings.isDirectoryAt ["a"] = true := rfl
  have innerList : siblings.list ⟨"/a"⟩ = .ok [.ok "n"] := rfl
  have innerEntries : sortedEntries ⟨"/a"⟩ [.ok "n"] = [⟨"/a/n"⟩] := List.mergeSort_singleton _
  have deepFile : siblings.isDirectory ⟨"/a/n"⟩ = false := rfl
  have deepName : (Path.fileName? ⟨"/a/n"⟩).filter notes.matchesName = some "n" := rfl
  have flatFile : siblings.isDirectory ⟨"/a.n"⟩ = false := rfl
  have flatName : (Path.fileName? ⟨"/a.n"⟩).filter notes.matchesName = some "a.n" := rfl
  have fresh : ([[]] : List Location).contains ["a"] = false := rfl
  simp only [visits, present, rootDir, Bool.not_true, Bool.false_eq_true, ↓reduceIte,
    walkDirectory, rootAt, rootNode, List.contains_nil, and_self, ↓reduceDIte, rootList,
    rootEntries, walkEntries, innerDir, innerAt, innerNode, fresh, innerList, innerEntries,
    deepFile, deepName, flatFile, flatName]
  rfl

theorem issues_siblings :
    notes.issues siblings ⟨"/"⟩ = [Issue.bare ⟨"/a/n"⟩, Issue.bare ⟨"/a.n"⟩] := by
  have deep : (notes.validateFile siblings ⟨"/a/n"⟩).issues = [Issue.bare ⟨"/a/n"⟩] := by
    decide +kernel
  have flat : (notes.validateFile siblings ⟨"/a.n"⟩).issues = [Issue.bare ⟨"/a.n"⟩] := by
    decide +kernel
  simp only [AssetType.issues, visits_siblings, List.flatMap_cons, List.flatMap_nil,
    Visit.issues, deep, flat, List.nil_append, List.append_nil, List.singleton_append]

theorem AssetType.recordWalk_in_path_order_siblings :
    siblings.WellFormed ∧
      issuesOf [Issue.bare ⟨"/a.n"⟩, Issue.bare ⟨"/a/n"⟩] =
        issuesOf (notes.issues siblings ⟨"/"⟩) ∧
      InPathOrder (Summary.empty.recordWalk notes siblings ⟨"/"⟩).errors ∧
      (Summary.empty.recordWalk notes siblings ⟨"/"⟩).errors =
        ([Issue.bare ⟨"/a.n"⟩, Issue.bare ⟨"/a/n"⟩].mergeSort Issue.fileLe).filter
          Issue.isError := by
  have formed : siblings.WellFormed := by decide
  have same : issuesOf [Issue.bare ⟨"/a.n"⟩, Issue.bare ⟨"/a/n"⟩] =
      issuesOf (notes.issues siblings ⟨"/"⟩) := by
    funext file
    rw [issues_siblings]
    by_cases flat : file = ⟨"/a.n"⟩
    · subst flat
      decide
    · simp [issuesOf, Issue.bare, List.filter_cons, Ne.symm flat]
  obtain ⟨sorted, _, _, restored⟩ := @recordWalk_in_path_order notes siblings ⟨"/"⟩ formed
  exact ⟨formed, same, sorted, (restored _ same).1⟩

end

end AssetLint
