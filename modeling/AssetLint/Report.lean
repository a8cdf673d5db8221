import AssetLint.Summary

/-!
The text report of a run: totals, errors, warnings, and the verdict.
-/
namespace AssetLint.Report

def errorMark : String := "❌"
def warningMark : String := "⚠️ "
def passed : String := "✅ All files passed validation!"

def totals (summary : Summary) : List String :=
  ["", "=== Validation Report ===", "",
    "Total files processed: " ++ toString summary.totalFiles,
    "Valid files: " ++ toString summary.validFiles,
    "Files with errors: " ++ toString summary.errorFiles,
    "Files with warnings: " ++ toString summary.warningFiles]

/-- A titled list, left out when it is empty. -/
def listing (title mark : String) (issues : List Issue) : List String :=
  if issues.isEmpty then []
  else ["", "=== " ++ title ++ " ==="] ++ issues.map fun issue => mark ++ " " ++ issue.text

def verdict (summary : Summary) : List String :=
  ["", "=== Summary ===",
    if summary.hasErrors then
      errorMark ++ " " ++ toString summary.errors.length ++ " error(s) need to be fixed."
    else passed] ++
  if summary.warnings.isEmpty then []
  else [warningMark ++ " " ++ toString summary.warnings.length ++ " warning(s)."]

/-- The entries of the report, each of which ends in a line feed. -/
def entries (summary : Summary) : List String :=
  totals summary ++ listing "Errors" errorMark summary.errors ++
    listing "Warnings" warningMark summary.warnings ++ verdict summary

def render (summary : Summary) : String :=
  String.join ((entries summary).map (· ++ "\n"))

end AssetLint.Report
