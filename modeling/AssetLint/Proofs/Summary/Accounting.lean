import AssetLint.Summary

/-!
What a summary says about the files recorded in it. `Accounts summary recorded` ties every count
and the list of errors to the outcomes of those files, in the order they were recorded; issues
that belong to no file leave it in place as long as they are warnings.
-/
namespace AssetLint

namespace Outcome

/-- Every issue of the outcome is about its file. -/
def IsLocal (outcome : Outcome) : Prop :=
  ∀ issue ∈ outcome.issues, issue.file = outcome.path

theorem isValid_eq_false_iff {outcome : Outcome} :
    outcome.isValid = false ↔ ∃ issue ∈ outcome.issues, issue.isError = true := by
  simp [isValid]

end Outcome

namespace Summary

variable {summary : Summary} {outcome : Outcome} {recorded : List Outcome}

theorem foldl_recordIssue (summary : Summary) (issues : List Issue) :
    issues.foldl recordIssue summary =
      { summary with
        errors := summary.errors ++ issues.filter Issue.isError
        warnings := summary.warnings ++ issues.filter fun issue => !issue.isError } := by
  induction issues generalizing summary with
  | nil => simp
  | cons issue rest ih =>
    rw [List.foldl_cons, ih]
    cases grave : issue.isError <;> simp [recordIssue, grave]

theorem recordFile_eq (summary : Summary) (outcome : Outcome) :
    summary.recordFile outcome =
      { totalFiles := summary.totalFiles + 1
        validFiles := summary.validFiles + if outcome.isValid then 1 else 0
        errorFiles := summary.errorFiles + if outcome.isValid then 0 else 1
        warningFiles := summary.warningFiles + if outcome.hasWarnings then 1 else 0
        errors := summary.errors ++ outcome.issues.filter Issue.isError
        warnings := summary.warnings ++ outcome.issues.filter fun issue => !issue.isError } :=
  foldl_recordIssue _ _

/-- The counts and the errors are those of the recorded files, and all else is a warning. -/
structure Accounts (summary : Summary) (recorded : List Outcome) : Prop where
  total : summary.totalFiles = recorded.length
  valid : summary.validFiles = recorded.countP Outcome.isValid
  error : summary.errorFiles = recorded.countP fun outcome => !outcome.isValid
  warning : summary.warningFiles = recorded.countP Outcome.hasWarnings
  errors : summary.errors = (recorded.flatMap Outcome.issues).filter Issue.isError
  warnings : ∀ issue ∈ summary.warnings, issue.isError = false

namespace Accounts

theorem empty : Accounts Summary.empty [] :=
  ⟨rfl, rfl, rfl, rfl, rfl, fun _ member => nomatch member⟩

theorem recordFile (before : Accounts summary recorded) (outcome : Outcome) :
    Accounts (summary.recordFile outcome) (recorded ++ [outcome]) := by
  rw [recordFile_eq]
  constructor
  case total => simp [before.total]
  case valid => simp [before.valid, List.countP_cons]
  case error => cases valid : outcome.isValid <;> simp [before.error, valid]
  case warning => simp [before.warning, List.countP_cons]
  case errors => simp [before.errors]
  case warnings =>
    intro issue member
    rcases List.mem_append.1 member with member | member
    · exact before.warnings issue member
    · simpa using (List.mem_filter.1 member).2

theorem recordIssue (before : Accounts summary recorded) {issue : Issue}
    (mild : issue.isError = false) : Accounts (summary.recordIssue issue) recorded := by
  unfold Summary.recordIssue
  rw [mild, if_neg Bool.false_ne_true]
  refine ⟨before.total, before.valid, before.error, before.warning, before.errors, ?_⟩
  intro other member
  rcases List.mem_append.1 member with member | member
  · exact before.warnings other member
  · cases List.mem_singleton.1 member
    exact mild

end Accounts

/-- Files count as valid or as faulty, every faulty file has an error of its own, and the exit
code is 1 just when some file is faulty. -/
structure Sound (summary : Summary) (recorded : List Outcome) : Prop where
  total : summary.totalFiles = recorded.length
  split : summary.totalFiles = summary.validFiles + summary.errorFiles
  warning_le : summary.warningFiles ≤ summary.totalFiles
  error_le : summary.errorFiles ≤ summary.errors.length
  errors : ∀ issue ∈ summary.errors, issue.severity = .error
  warnings : ∀ issue ∈ summary.warnings, issue.severity = .warning
  carried : ∀ issue ∈ summary.errors, ∃ outcome ∈ recorded, issue.file = outcome.path
  exitCode_le : summary.exitCode ≤ 1
  exitCode_iff : summary.exitCode = 1 ↔ summary.errors ≠ []
  errors_iff : summary.errors ≠ [] ↔ 0 < summary.errorFiles
  errorFiles_iff : 0 < summary.errorFiles ↔ summary.validFiles < summary.totalFiles
  faulty_iff : 0 < summary.errorFiles ↔ ∃ outcome ∈ recorded, outcome.isValid = false

theorem countP_not_isValid_le (recorded : List Outcome) :
    (recorded.countP fun outcome => !outcome.isValid) ≤
      ((recorded.flatMap Outcome.issues).filter Issue.isError).length := by
  induction recorded with
  | nil => exact Nat.le_refl 0
  | cons outcome rest ih =>
    rw [List.countP_cons, List.flatMap_cons, List.filter_append, List.length_append]
    cases valid : outcome.isValid with
    | true => simp; omega
    | false =>
      obtain ⟨issue, member, grave⟩ := Outcome.isValid_eq_false_iff.1 valid
      have some_ : 0 < (outcome.issues.filter Issue.isError).length :=
        List.length_pos_of_mem (List.mem_filter.2 ⟨member, grave⟩)
      simp only [Bool.not_false, if_true]
      omega

namespace Accounts

theorem mem_errors (accounts : Accounts summary recorded) {issue : Issue} :
    issue ∈ summary.errors ↔
      ∃ outcome ∈ recorded, issue ∈ outcome.issues ∧ issue.isError = true := by
  rw [accounts.errors, List.mem_filter, List.mem_flatMap]
  constructor
  · rintro ⟨⟨outcome, member, inside⟩, grave⟩
    exact ⟨outcome, member, inside, grave⟩
  · rintro ⟨outcome, member, inside, grave⟩
    exact ⟨⟨outcome, member, inside⟩, grave⟩

theorem errorFiles_pos_iff (accounts : Accounts summary recorded) :
    0 < summary.errorFiles ↔ ∃ outcome ∈ recorded, outcome.isValid = false := by
  rw [accounts.error, List.countP_pos_iff]
  simp

theorem errors_ne_nil_iff (accounts : Accounts summary recorded) :
    summary.errors ≠ [] ↔ 0 < summary.errorFiles := by
  rw [accounts.errorFiles_pos_iff]
  constructor
  · intro some_
    obtain ⟨issue, member⟩ := List.exists_mem_of_ne_nil _ some_
    obtain ⟨outcome, recorded, inside, grave⟩ := accounts.mem_errors.1 member
    exact ⟨outcome, recorded, Outcome.isValid_eq_false_iff.2 ⟨issue, inside, grave⟩⟩
  · rintro ⟨outcome, member, faulty⟩
    obtain ⟨issue, inside, grave⟩ := Outcome.isValid_eq_false_iff.1 faulty
    exact List.ne_nil_of_mem (accounts.mem_errors.2 ⟨outcome, member, inside, grave⟩)

theorem sound (accounts : Accounts summary recorded)
    (about : ∀ outcome ∈ recorded, outcome.IsLocal) : Sound summary recorded := by
  have parts : summary.totalFiles = summary.validFiles + summary.errorFiles := by
    rw [accounts.total, accounts.valid, accounts.error,
      List.length_eq_countP_add_countP Outcome.isValid]
    simp only [Bool.not_eq_true, Bool.decide_eq_false]
  refine ⟨accounts.total, parts, ?_, ?_, ?_, ?_, ?_, ?_, ?_, accounts.errors_ne_nil_iff, ?_,
    accounts.errorFiles_pos_iff⟩
  · rw [accounts.warning, accounts.total]
    exact List.countP_le_length
  · rw [accounts.error, accounts.errors]
    exact countP_not_isValid_le recorded
  · intro issue member
    obtain ⟨_, _, _, grave⟩ := accounts.mem_errors.1 member
    exact of_decide_eq_true grave
  · intro issue member
    have mild := of_decide_eq_false (accounts.warnings issue member)
    cases severity : issue.severity with
    | error => exact absurd severity mild
    | warning => rfl
  · intro issue member
    obtain ⟨outcome, recorded, inside, _⟩ := accounts.mem_errors.1 member
    exact ⟨outcome, recorded, about outcome recorded issue inside⟩
  · cases list : summary.errors <;> simp [exitCode, hasErrors, list]
  · cases list : summary.errors <;> simp [exitCode, hasErrors, list]
  · omega

end Accounts
end Summary
end AssetLint
