import AssetLint.Proofs.Summary.Accounting
import AssetLint.Proofs.Validate.Issues
import AssetLint.Proofs.Walk.Visits

/-!
Exit status of whole runs. Every issue of a file is about that file, and a walk records nothing
besides files but warnings about directories; so the summary of a run accounts for the files
that it dispatched, and its exit code is 1 just when one of them is faulty.
-/
namespace AssetLint

namespace AssetType

/-- The outcomes that a walk records, in order. -/
def outcomes (assetType : AssetType) (fs : FileSystem) (root : Path) : List Outcome :=
  (assetType.visits fs root).filterMap Visit.outcome?

variable {assetType : AssetType} {fs : FileSystem} {root : Path}

/-- A property of visits holds for a walk from a root if it holds within a directory, and for
the warnings that there is none. -/
theorem visits_cases {K : Visit → Prop}
    (missing : ∀ issue, issue.file = root → issue.kind = .directory → K (.warning issue))
    (walked : fs.isDirectory root = true →
      ∀ visit ∈ (assetType.walkDirectory fs root []).visits, K visit) :
    ∀ visit ∈ assetType.visits fs root, K visit := by
  intro visit member
  rcases visits_eq assetType fs root with ⟨issue, file, kind, shape⟩ | ⟨present, shape⟩
  · rw [shape, List.mem_singleton] at member
    exact member ▸ missing issue file kind
  · exact walked present visit (shape ▸ member)

/-- What a visit leaves in a summary is a file that was validated or a warning about a
directory. -/
def Reports (assetType : AssetType) (fs : FileSystem) : Visit → Prop
  | .file _ _ outcome => ∃ path, outcome = assetType.validateFile fs path
  | .warning issue => issue.kind = .directory
  | .listed .. | .known .. => True

theorem reports_visits : ∀ visit ∈ assetType.visits fs root, assetType.Reports fs visit := by
  refine visits_cases (fun _ _ kind => kind) fun present => ?_
  exact visits_induction (R := fun _ => True) (fun _ _ _ _ _ _ _ _ => trivial)
    (fun _ _ _ _ _ kind => kind) (fun _ _ _ _ => trivial) (fun _ _ _ _ _ _ => trivial)
    (fun _ path _ _ _ _ => ⟨path, rfl⟩) present trivial []

theorem exists_file_of_mem_outcomes {outcome : Outcome}
    (member : outcome ∈ assetType.outcomes fs root) :
    ∃ directory name, .file directory name outcome ∈ assetType.visits fs root := by
  obtain ⟨visit, inside, shape⟩ := List.mem_filterMap.1 member
  cases visit with
  | file directory name recorded =>
    cases shape
    exact ⟨directory, name, inside⟩
  | listed location path => cases shape
  | known location path => cases shape
  | warning issue => cases shape

theorem isLocal_outcomes : ∀ outcome ∈ assetType.outcomes fs root, outcome.IsLocal := by
  intro outcome member
  obtain ⟨directory, name, inside⟩ := exists_file_of_mem_outcomes member
  obtain ⟨path, rfl⟩ := reports_visits _ inside
  exact isLocal_validateFile assetType fs path

end AssetType

namespace Summary

theorem Accounts.recordVisits {summary : Summary} {recorded : List Outcome}
    {visits : List Visit} (before : Accounts summary recorded)
    (mild : ∀ issue, .warning issue ∈ visits → issue.kind = .directory) :
    Accounts (visits.foldl recordVisit summary) (recorded ++ visits.filterMap Visit.outcome?) := by
  induction visits generalizing summary recorded with
  | nil => simpa using before
  | cons visit rest ih =>
    have later : ∀ issue, .warning issue ∈ rest → issue.kind = .directory :=
      fun issue member => mild issue (List.mem_cons_of_mem _ member)
    cases visit with
    | file directory name outcome =>
      have after := ih (before.recordFile outcome) later
      rwa [List.append_assoc] at after
    | warning issue =>
      refine ih (before.recordIssue ?_) later
      simp [Issue.isError, Issue.severity, mild issue List.mem_cons_self, IssueKind.severity]
    | listed location path => exact ih before later
    | known location path => exact ih before later

theorem Accounts.recordWalk {summary : Summary} {recorded : List Outcome}
    (before : Accounts summary recorded) (assetType : AssetType) (fs : FileSystem)
    (root : Path) : Accounts (summary.recordWalk assetType fs root)
      (recorded ++ assetType.outcomes fs root) :=
  before.recordVisits fun _ member => AssetType.reports_visits _ member

end Summary

namespace Registry

/-- The files that a run over the tree checks, each with the type it is checked against. -/
def dispatched (registry : Registry) (fs : FileSystem) (root : Path) :
    List (AssetType × Outcome) :=
  registry.assetTypes.flatMap fun assetType =>
    (assetType.outcomes fs (root.join assetType.directory)).map fun outcome =>
      (assetType, outcome)

theorem accounts_validateTree (registry : Registry) (fs : FileSystem) (root : Path) :
    (registry.validateTree fs root).Accounts ((registry.dispatched fs root).map Prod.snd) := by
  suffices onward : ∀ (types : List AssetType) (summary : Summary) (recorded : List Outcome),
      summary.Accounts recorded →
        (types.foldl (fun summary assetType =>
          summary.recordWalk assetType fs (root.join assetType.directory)) summary).Accounts
        (recorded ++ types.flatMap fun assetType =>
          assetType.outcomes fs (root.join assetType.directory)) by
    simpa [validateTree, dispatched, List.map_flatMap, Function.comp_def] using
      onward registry.assetTypes Summary.empty [] .empty
  intro types
  induction types with
  | nil =>
    intro summary recorded before
    simpa using before
  | cons assetType rest ih =>
    intro summary recorded before
    have after := ih _ _ (before.recordWalk assetType fs (root.join assetType.directory))
    rwa [List.append_assoc] at after

theorem accounts_validatePaths (registry : Registry) (fs : FileSystem) (root : Path)
    (paths : List Path) : (registry.validatePaths fs root paths).Accounts
      (paths.map (registry.validatePath fs root)) := by
  suffices onward : ∀ (summary : Summary) (recorded : List Outcome), summary.Accounts recorded →
      (paths.foldl (fun summary path =>
        summary.recordFile (registry.validatePath fs root path)) summary).Accounts
      (recorded ++ paths.map (registry.validatePath fs root)) by
    simpa [validatePaths] using onward Summary.empty [] .empty
  induction paths with
  | nil =>
    intro summary recorded before
    simpa using before
  | cons path rest ih =>
    intro summary recorded before
    have after := ih _ _ (before.recordFile (registry.validatePath fs root path))
    rwa [List.append_assoc] at after

theorem isLocal_dispatched (registry : Registry) (fs : FileSystem) (root : Path) :
    ∀ outcome ∈ (registry.dispatched fs root).map Prod.snd, outcome.IsLocal := by
  intro outcome member
  simp only [dispatched, List.map_flatMap, List.mem_flatMap, List.mem_map] at member
  obtain ⟨assetType, _, _, ⟨recorded, inside, rfl⟩, rfl⟩ := member
  exact AssetType.isLocal_outcomes recorded inside

theorem isLocal_validatePath (registry : Registry) (fs : FileSystem) (root path : Path) :
    (registry.validatePath fs root path).IsLocal := by
  unfold validatePath
  split
  · exact AssetType.isLocal_validateFile _ fs path
  · intro issue member
    cases List.mem_singleton.1 member
    rfl

/-- The summary of a run over the tree or over named files is sound for the files that the run
recorded: directory problems never make it fail, and one faulty file always does. -/
theorem sound_runs (registry : Registry) (fs : FileSystem) (root : Path) (paths : List Path) :
    (registry.validateTree fs root).Sound ((registry.dispatched fs root).map Prod.snd) ∧
      (registry.validatePaths fs root paths).Sound
        (paths.map (registry.validatePath fs root)) := by
  refine ⟨?_, ?_⟩
  · exact (accounts_validateTree registry fs root).sound (isLocal_dispatched registry fs root)
  · refine (accounts_validatePaths registry fs root paths).sound fun outcome member => ?_
    obtain ⟨path, _, rfl⟩ := List.mem_map.1 member
    exact isLocal_validatePath registry fs root path

end Registry
end AssetLint
