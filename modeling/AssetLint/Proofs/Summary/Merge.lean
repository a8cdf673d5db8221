import AssetLint.Proofs.Registry.ExitStatus

/-!
Merging of summaries. With the empty summary merging is a monoid, and recording acts on it from
the right: what a list of steps adds to a summary is what the steps leave in an empty one. So a
run can be cut anywhere, and the summaries of its parts merged in order are that of the whole.
-/
namespace AssetLint

namespace Summary

/-- What can be recorded in a summary. -/
inductive Step where
  | file (outcome : Outcome)
  | issue (issue : Issue)

def record (summary : Summary) : Step → Summary
  | .file outcome => summary.recordFile outcome
  | .issue issue => summary.recordIssue issue

def recordAll (summary : Summary) (steps : List Step) : Summary :=
  steps.foldl record summary

theorem merge_assoc (first second third : Summary) :
    (first.merge second).merge third = first.merge (second.merge third) := by
  simp [merge, Nat.add_assoc]

theorem empty_merge (summary : Summary) : empty.merge summary = summary := by
  simp [merge, empty]

theorem merge_empty (summary : Summary) : summary.merge empty = summary := by
  simp [merge, empty]

/-- No step looks at what is there already. -/
theorem record_eq_merge (summary : Summary) (step : Step) :
    summary.record step = summary.merge (empty.record step) := by
  cases step with
  | file outcome => simp [record, recordFile_eq, merge, empty]
  | issue issue => cases grave : issue.isError <;> simp [record, recordIssue, grave, merge, empty]

theorem recordAll_eq_merge (summary : Summary) (steps : List Step) :
    summary.recordAll steps = summary.merge (empty.recordAll steps) := by
  induction steps generalizing summary with
  | nil => exact (merge_empty summary).symm
  | cons step rest ih =>
    calc summary.recordAll (step :: rest)
      _ = (summary.record step).merge (empty.recordAll rest) := ih _
      _ = (summary.merge (empty.record step)).merge (empty.recordAll rest) := by
        rw [record_eq_merge]
      _ = summary.merge ((empty.record step).merge (empty.recordAll rest)) := merge_assoc _ _ _
      _ = summary.merge (empty.recordAll (step :: rest)) := by
        rw [← ih (empty.record step)]
        rfl

theorem recordAll_append (summary : Summary) (steps more : List Step) :
    summary.recordAll (steps ++ more) = (summary.recordAll steps).merge (empty.recordAll more) := by
  rw [recordAll, List.foldl_append]
  exact recordAll_eq_merge _ more

end Summary

/-- What a visit records. -/
def Visit.step? : Visit → Option Summary.Step
  | .file _ _ outcome => some (.file outcome)
  | .warning issue => some (.issue issue)
  | .listed .. | .known .. => none

namespace Summary

theorem recordWalk_eq_recordAll (summary : Summary) (assetType : AssetType) (fs : FileSystem)
    (root : Path) : summary.recordWalk assetType fs root =
      summary.recordAll ((assetType.visits fs root).filterMap Visit.step?) := by
  unfold recordWalk recordAll
  rw [List.foldl_filterMap]
  congr 1
  funext before visit
  cases visit <;> rfl

theorem recordWalk_eq_merge (summary : Summary) (assetType : AssetType) (fs : FileSystem)
    (root : Path) : summary.recordWalk assetType fs root =
      summary.merge (empty.recordWalk assetType fs root) := by
  rw [recordWalk_eq_recordAll, recordWalk_eq_recordAll]
  exact recordAll_eq_merge _ _

end Summary

namespace Registry

open Summary

theorem validateTree_eq_merge (registry : Registry) (fs : FileSystem) (root : Path) :
    registry.validateTree fs root =
      (registry.assetTypes.map fun assetType =>
        empty.recordWalk assetType fs (root.join assetType.directory)).foldl merge empty := by
  rw [validateTree, List.foldl_map]
  congr 1
  funext summary assetType
  exact recordWalk_eq_merge _ _ _ _

theorem validatePaths_eq_recordAll (registry : Registry) (fs : FileSystem) (root : Path)
    (paths : List Path) : registry.validatePaths fs root paths =
      empty.recordAll (paths.map fun path => .file (registry.validatePath fs root path)) := by
  rw [recordAll, List.foldl_map]
  rfl

theorem validatePaths_append (registry : Registry) (fs : FileSystem) (root : Path)
    (paths more : List Path) : registry.validatePaths fs root (paths ++ more) =
      (registry.validatePaths fs root paths).merge (registry.validatePaths fs root more) := by
  rw [validatePaths_eq_recordAll, validatePaths_eq_recordAll, validatePaths_eq_recordAll,
    List.map_append]
  exact recordAll_append _ _ _

/-- Recording is a homomorphism from lists of steps to summaries under merge, for walks and for
both kinds of run: a run may be cut into parts that are merged in order. -/
theorem runs_merge :
    (∀ first second third : Summary,
        (first.merge second).merge third = first.merge (second.merge third)) ∧
      (∀ summary : Summary, empty.merge summary = summary ∧ summary.merge empty = summary) ∧
      (∀ (summary : Summary) (steps more : List Step), summary.recordAll (steps ++ more) =
        (summary.recordAll steps).merge (empty.recordAll more)) ∧
      (∀ (summary : Summary) (assetType : AssetType) (fs : FileSystem) (root : Path),
        summary.recordWalk assetType fs root =
          summary.merge (empty.recordWalk assetType fs root)) ∧
      (∀ (registry : Registry) (fs : FileSystem) (root : Path), registry.validateTree fs root =
        (registry.assetTypes.map fun assetType =>
          empty.recordWalk assetType fs (root.join assetType.directory)).foldl merge empty) ∧
      ∀ (registry : Registry) (fs : FileSystem) (root : Path) (paths more : List Path),
        registry.validatePaths fs root (paths ++ more) =
            (registry.validatePaths fs root paths).merge (registry.validatePaths fs root more) ∧
          (registry.validatePaths fs root paths).totalFiles = paths.length := by
  refine ⟨merge_assoc, fun summary => ⟨empty_merge summary, merge_empty summary⟩,
    recordAll_append, recordWalk_eq_merge, validateTree_eq_merge, ?_⟩
  intro registry fs root paths more
  refine ⟨validatePaths_append registry fs root paths more, ?_⟩
  rw [(accounts_validatePaths registry fs root paths).total, List.length_map]

end Registry
end AssetLint
