import AssetLint.Issue

/-!
Outcomes of files and the summary of a run. A file is valid when none of its issues is an
error; warnings never count against it.
-/
namespace AssetLint

/-- The issues of one file in the order of the checks. -/
structure Outcome where
  path : Path
  issues : List Issue
  deriving DecidableEq, Repr

namespace Outcome

def isValid (outcome : Outcome) : Bool :=
  !outcome.issues.any Issue.isError

def hasWarnings (outcome : Outcome) : Bool :=
  outcome.issues.any fun issue => !issue.isError

end Outcome

structure Summary where
  totalFiles : Nat := 0
  validFiles : Nat := 0
  errorFiles : Nat := 0
  warningFiles : Nat := 0
  errors : List Issue := []
  warnings : List Issue := []
  deriving DecidableEq, Repr

namespace Summary

def empty : Summary := {}

/-- Adds an issue that belongs to no file; the counts stay. -/
def recordIssue (summary : Summary) (issue : Issue) : Summary :=
  if issue.isError then { summary with errors := summary.errors ++ [issue] }
  else { summary with warnings := summary.warnings ++ [issue] }

/-- Counts a file and adds its issues. -/
def recordFile (summary : Summary) (outcome : Outcome) : Summary :=
  outcome.issues.foldl recordIssue
    { summary with
      totalFiles := summary.totalFiles + 1
      validFiles := summary.validFiles + if outcome.isValid then 1 else 0
      errorFiles := summary.errorFiles + if outcome.isValid then 0 else 1
      warningFiles := summary.warningFiles + if outcome.hasWarnings then 1 else 0 }

/-- Adds the counts, and the issues of the second after those of the first. -/
def merge (left right : Summary) : Summary :=
  { totalFiles := left.totalFiles + right.totalFiles
    validFiles := left.validFiles + right.validFiles
    errorFiles := left.errorFiles + right.errorFiles
    warningFiles := left.warningFiles + right.warningFiles
    errors := left.errors ++ right.errors
    warnings := left.warnings ++ right.warnings }

def hasErrors (summary : Summary) : Bool :=
  !summary.errors.isEmpty

def exitCode (summary : Summary) : Nat :=
  if summary.hasErrors then 1 else 0

def sameIssues : List Issue → List Issue → Bool
  | [], [] => true
  | a :: as, b :: bs => a.same b && sameIssues as bs
  | _, _ => false

/-- Equality with files compared as paths. -/
def same (left right : Summary) : Bool :=
  left.totalFiles = right.totalFiles && left.validFiles = right.validFiles &&
    left.errorFiles = right.errorFiles && left.warningFiles = right.warningFiles &&
    sameIssues left.errors right.errors && sameIssues left.warnings right.warnings

end Summary
end AssetLint
