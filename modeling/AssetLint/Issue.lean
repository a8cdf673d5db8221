import AssetLint.Path

/-!
Findings about files. The kind of a finding fixes its severity.
-/
namespace AssetLint

inductive Severity where
  | error
  | warning
  deriving DecidableEq, Repr

def Severity.name : Severity → String
  | error => "error"
  | warning => "warning"

inductive IssueKind where
  | naming
  | missingFrontMatter
  | requiredField
  | fieldType
  | unknownField
  | contentStructure
  | fileError
  | directory
  deriving DecidableEq, Repr

namespace IssueKind

def severity : IssueKind → Severity
  | naming | missingFrontMatter | requiredField | fieldType | fileError => .error
  | unknownField | contentStructure | directory => .warning

def name : IssueKind → String
  | naming => "naming"
  | missingFrontMatter => "missing_frontmatter"
  | requiredField => "required_field"
  | fieldType => "field_type"
  | unknownField => "unknown_field"
  | contentStructure => "content_structure"
  | fileError => "file_error"
  | directory => "directory"

end IssueKind

structure Issue where
  file : Path
  kind : IssueKind
  message : String
  deriving DecidableEq, Repr

namespace Issue

def severity (issue : Issue) : Severity :=
  issue.kind.severity

def isError (issue : Issue) : Bool :=
  issue.severity = .error

/-- One line of a report. -/
def text (issue : Issue) : String :=
  issue.file.text ++ ": " ++ issue.message

/-- Equality with files compared as paths. -/
def same (left right : Issue) : Bool :=
  left.file.same right.file && left.kind = right.kind && left.message = right.message

end Issue
end AssetLint
