import AssetLint.Proofs.Registry.Locality
import AssetLint.Proofs.Validate.Verdict
import AssetLint.Proofs.Walk.PassedOver

/-!
Names that a run over the tree takes. A walk records a file only under a name that the type asks
for, and the check of the file finds that same name in its path; so a run has no issue about a name
(`kind_ne_naming_validateTree`). What no type takes leaves no trace either: with any number of
further files under such names the summary is the same (`validateTree_eq_of_adds`).
-/
namespace AssetLint

namespace AssetType

variable {assetType : AssetType} {fs : FileSystem} {root path : Path} {issue : Issue}

/-- The name that an entry is filtered by is the name that its file is checked for. -/
theorem isNamed_of_filter {name : String}
    (matched : path.fileName?.filter assetType.matchesName = some name) :
    assetType.IsNamed path := by
  obtain ⟨named, matched⟩ := Option.filter_eq_some_iff.1 matched
  exact ⟨name, named, matched⟩

/-- Every file of a walk is named as the type asks. -/
theorem isNamed_outcomes : ∀ outcome ∈ assetType.outcomes fs root,
    ∃ path, assetType.IsNamed path ∧ outcome = assetType.validateFile fs path := by
  intro outcome member
  obtain ⟨directory, name, inside⟩ := exists_file_of_mem_outcomes member
  have named : ∀ visit ∈ assetType.visits fs root, ∀ outcome ∈ visit.outcome?,
      ∃ path, assetType.IsNamed path ∧ outcome = assetType.validateFile fs path := by
    refine visits_cases (fun _ _ _ => nofun) fun present => ?_
    refine visits_induction (R := fun _ => True) (fun _ _ _ _ _ _ _ _ => trivial)
      (fun _ _ _ _ _ _ => nofun) (fun _ _ _ _ => nofun) (fun _ _ _ _ _ _ => nofun)
      ?file present trivial []
    intro _ path _ _ _ matched outcome recorded
    exact ⟨path, isNamed_of_filter matched, (Option.some.inj recorded).symm⟩
  exact named _ inside outcome rfl

/-- A file that is named as the type asks has no issue about its name. -/
theorem kind_ne_naming_of_isNamed (named : assetType.IsNamed path)
    (member : issue ∈ (assetType.validateFile fs path).issues) : issue.kind ≠ .naming := by
  unfold validateFile at member
  split at member
  · next text _ =>
    simp only [validateText, nameIssues_eq_nil_iff.2 named, List.nil_append, List.mem_append]
      at member
    intro naming
    rcases member with headed | probed
    · have late := ((graded_headerIssues assetType path text).within issue headed).1
      simp [naming, IssueKind.place] at late
    · cases naming.symm.trans (kind_of_mem_probeIssues probed)
  · simp [List.mem_singleton.1 member]

theorem kind_of_mem_issues_ne_naming (member : issue ∈ assetType.issues fs root) :
    issue.kind ≠ .naming := by
  obtain ⟨visit, among, reported⟩ := List.mem_flatMap.1 member
  cases shape : visit.outcome? with
  | none =>
    rw [kind_of_mem_issues (reports_visits visit among) shape reported]
    nofun
  | some outcome =>
    obtain ⟨path, named, rfl⟩ := isNamed_outcomes outcome (List.mem_filterMap.2 ⟨_, among, shape⟩)
    cases visit with
    | file directory name recorded =>
      cases shape
      exact kind_ne_naming_of_isNamed named reported
    | listed location path => cases shape
    | known location path => cases shape
    | warning warned => cases shape

end AssetType

namespace Registry

open FileSystem

variable {left right : FileSystem} {added : List Location}

theorem isNamed_dispatched (registry : Registry) (fs : FileSystem) (root : Path) :
    ∀ pair ∈ registry.dispatched fs root, pair.1.IsNamed pair.2.path := by
  rintro ⟨assetType, outcome⟩ member
  obtain ⟨_, _, inside⟩ := List.mem_flatMap.1 member
  obtain ⟨_, among, same⟩ := List.mem_map.1 inside
  cases same
  obtain ⟨path, named, rfl⟩ := AssetType.isNamed_outcomes outcome among
  rwa [AssetType.path_validateFile]

theorem kind_ne_naming_validateTree (registry : Registry) (fs : FileSystem) (root : Path) :
    ∀ issue ∈ (registry.validateTree fs root).errors ++ (registry.validateTree fs root).warnings,
      issue.kind ≠ .naming := by
  intro issue member
  rw [(lists_validateTree registry fs root).1, (lists_validateTree registry fs root).2,
    List.mem_append] at member
  have among : issue ∈ registry.issues fs root :=
    member.elim (fun error => (List.mem_filter.1 error).1) fun mild => (List.mem_filter.1 mild).1
  obtain ⟨assetType, _, inside⟩ := List.mem_flatMap.1 among
  exact AssetType.kind_of_mem_issues_ne_naming inside

/-- Further files that no type takes change nothing in a summary, unless one of them is where a type
has its directory. -/
theorem validateTree_eq_of_adds (registry : Registry) (adds : left.AddsFiles right added)
    (formed : left.WellFormed) (twin : right.WellFormed) (whole : left.LinksLead)
    (unmatched : ∀ assetType ∈ registry.assetTypes, ∀ name directory,
      name :: directory ∈ added → assetType.matchesName name = false) {root : Path}
    (apart : ∀ assetType ∈ registry.assetTypes, ∀ location ∈ added,
      right.locate (root.join assetType.directory) ≠ .ok location) :
    registry.validateTree right root = registry.validateTree left root := by
  unfold validateTree
  refine List.foldl_ext _ _ _ fun summary assetType member => ?_
  unfold Summary.recordWalk
  rw [AssetType.visits_eq_of_adds adds twin (unmatched assetType member) formed whole
    (apart assetType member)]

/-- A walk and the check of a file agree on names. In any file system a run over the tree records
files only under names that their types take, and so it reports no name. And where no link dangles,
any number of further files under names that no type takes, in directories that were there, leave
the summary as it was: counts, issues and their order. Only a file at the very place where a type
has its directory would be warned of. -/
theorem names_filtered (registry : Registry) (root : Path) :
    (∀ fs : FileSystem,
      (registry.validateTree fs root).totalFiles = (registry.dispatched fs root).length ∧
      (∀ pair ∈ registry.dispatched fs root, pair.1.IsNamed pair.2.path) ∧
      ∀ issue ∈ (registry.validateTree fs root).errors ++ (registry.validateTree fs root).warnings,
        issue.kind ≠ .naming) ∧
    ∀ left right : FileSystem, ∀ added : List Location, left.WellFormed → right.WellFormed →
      left.LinksLead → left.AddsFiles right added →
      (∀ assetType ∈ registry.assetTypes, ∀ name directory,
        name :: directory ∈ added → assetType.matchesName name = false) →
      (∀ assetType ∈ registry.assetTypes, ∀ location ∈ added,
        right.locate (root.join assetType.directory) ≠ .ok location) →
      registry.validateTree right root = registry.validateTree left root := by
  refine ⟨fun fs => ⟨?_, isNamed_dispatched registry fs root,
    kind_ne_naming_validateTree registry fs root⟩, ?_⟩
  · rw [(accounts_validateTree registry fs root).total, List.length_map]
  · intro left right added formed twin whole adds unmatched apart
    exact validateTree_eq_of_adds registry adds formed twin whole unmatched apart

end Registry

/-- The loop with two more files, under names that no note has. -/
def FileSystem.littered : FileSystem :=
  { looped with
    nodes := (["x"], .file ⟨#[]⟩ 0o644) :: looped.nodes ++ [(["e", "a"], .file ⟨#[]⟩ 0)] }

namespace Registry

open FileSystem

theorem names_filtered_littered :
    looped.WellFormed ∧ littered.WellFormed ∧ looped.LinksLead ∧
      looped.AddsFiles littered [["x"], ["e", "a"]] ∧
      Registry.validateTree ⟨[.notes]⟩ littered ⟨"/"⟩ =
        Registry.validateTree ⟨[.notes]⟩ looped ⟨"/"⟩ := by
  have formed : looped.WellFormed := by decide
  have twin : littered.WellFormed := by decide
  have whole : looped.LinksLead := by decide +kernel
  have files : ∀ entry ∈ littered.nodes, entry.1 ∈ [["x"], ["e", "a"]] →
      ∃ content mode, entry.2 = .file content mode := by
    intro entry member among
    simp only [littered, looped, List.cons_append, List.nil_append, List.mem_cons,
      List.not_mem_nil, or_false] at member
    rcases member with rfl | rfl | rfl | rfl | rfl | rfl
    · exact ⟨_, _, rfl⟩
    · simp at among
    · simp at among
    · exact ⟨_, _, rfl⟩
    · simp at among
    · exact ⟨_, _, rfl⟩
  have adds : looped.AddsFiles littered [["x"], ["e", "a"]] :=
    .of_nodes (by decide) rfl (by decide) files (by decide)
  have unmatched : ∀ name directory, name :: directory ∈ [["x"], ["e", "a"]] →
      AssetType.notes.matchesName name = false := by
    intro name directory member
    simp only [List.mem_cons, List.cons.injEq, List.not_mem_nil, or_false] at member
    rcases member with ⟨rfl, _⟩ | ⟨rfl, _⟩
    · rfl
    · rfl
  refine ⟨formed, twin, whole, adds, ?_⟩
  refine (names_filtered ⟨[.notes]⟩ ⟨"/"⟩).2 _ _ _ formed twin whole adds ?_ (by decide +kernel)
  intro assetType member
  cases List.mem_singleton.1 member
  exact unmatched

end Registry
end AssetLint
