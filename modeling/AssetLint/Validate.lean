import AssetLint.AssetType
import AssetLint.FileSystem
import AssetLint.FrontMatter
import AssetLint.Summary

/-!
The checks of one file: its name, its header, the required fields, the fields that hold lists,
unknown fields, and the probes. No check stops another, but the fields are checked only when
the header decodes.
-/
namespace AssetLint

/-- Fields that hold a sequence unless they count as absent. -/
def listFields : List String := ["inputs", "capabilities", "rules"]

namespace AssetType

def nameIssues (assetType : AssetType) (path : Path) : List Issue :=
  if assetType.matchesPath path then []
  else [⟨path, .naming, "File name does not match pattern: " ++ assetType.pattern.source⟩]

/-- The field has a value that counts as present. -/
def isPresent (metadata : Yaml.Mapping) (field : String) : Bool :=
  (Yaml.Mapping.get? metadata field).any Yaml.Value.isTruthy

def requiredIssues (assetType : AssetType) (path : Path) (metadata : Yaml.Mapping) : List Issue :=
  (assetType.required.filter fun field => !isPresent metadata field).map fun field =>
    ⟨path, .requiredField, "Missing required field: " ++ field⟩

/-- The field counts as present and holds no sequence. -/
def isMistyped (metadata : Yaml.Mapping) (field : String) : Bool :=
  (Yaml.Mapping.get? metadata field).any fun value => value.isTruthy && !value.isSequence

def typeIssues (path : Path) (metadata : Yaml.Mapping) : List Issue :=
  (listFields.filter (isMistyped metadata)).map fun field =>
    ⟨path, .fieldType, field ++ " field must be an array"⟩

def unknownIssues (assetType : AssetType) (path : Path) (metadata : Yaml.Mapping) : List Issue :=
  (assetType.unknownFields metadata).map fun field =>
    ⟨path, .unknownField, "Unknown field: " ++ field⟩

def fieldIssues (assetType : AssetType) (path : Path) (metadata : Yaml.Mapping) : List Issue :=
  assetType.requiredIssues path metadata ++ typeIssues path metadata ++
    assetType.unknownIssues path metadata

def headerIssues (assetType : AssetType) (path : Path) (text : List Char) : List Issue :=
  match FrontMatter.parse text with
  | .error error => [⟨path, .missingFrontMatter, error.message⟩]
  | .ok document =>
    match document.metadata with
    | none => [⟨path, .missingFrontMatter, "Missing or invalid front-matter"⟩]
    | some metadata => assetType.fieldIssues path metadata

/-- The probes look at the whole text, header included. -/
def probeIssues (assetType : AssetType) (path : Path) (text : List Char) : List Issue :=
  (assetType.probes.filter fun probe => !probe.isSatisfiedBy text).map fun probe =>
    ⟨path, .contentStructure, probe.message⟩

def validateText (assetType : AssetType) (path : Path) (text : List Char) : Outcome :=
  ⟨path, assetType.nameIssues path ++ assetType.headerIssues path text ++
    assetType.probeIssues path text⟩

/-- A file that cannot be read has that one issue. -/
def validateFile (assetType : AssetType) (fs : FileSystem) (path : Path) : Outcome :=
  match fs.readText path with
  | .ok text => assetType.validateText path text
  | .error error => ⟨path, [⟨path, .fileError, "Error reading file: " ++ error.message⟩]⟩

end AssetType
end AssetLint
