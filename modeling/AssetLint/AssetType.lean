import AssetLint.Path
import AssetLint.Pattern.Match
import AssetLint.Yaml.Value

/-!
Asset types: where files live, how they are named, and which fields they must and may have.
-/
namespace AssetLint

/-- A check that the text of a file holds one of several needles. -/
structure Probe where
  anyOf : List String
  message : String
  deriving DecidableEq, Repr

def Probe.isSatisfiedBy (probe : Probe) (text : List Char) : Bool :=
  probe.anyOf.any fun needle => Text.contains needle.toList text

/-- An asset type as it is declared. -/
structure AssetSpec where
  name : String
  directory : Path
  pattern : String
  required : List String
  optional : List String := []
  probes : List Probe := []
  deriving DecidableEq, Repr

structure AssetType where
  name : String
  directory : Path
  pattern : Pattern.Compiled
  required : List String
  optional : List String
  probes : List Probe
  deriving DecidableEq, Repr

inductive SpecError where
  | noRequiredFields (assetType : String)
  | invalidPattern (assetType pattern reason : String)
  | emptyProbe (assetType : String)
  deriving DecidableEq, Repr

/-- The first occurrence of every name, in order. -/
def distinct : List String → List String
  | [] => []
  | name :: names => name :: (distinct names).filter (· ≠ name)

/-- Checks a declaration: first its pattern, then its required fields, then its probes. -/
def AssetSpec.compile (spec : AssetSpec) : Except SpecError AssetType :=
  match Pattern.compile spec.pattern with
  | .error error => .error (.invalidPattern spec.name spec.pattern error.message)
  | .ok pattern =>
    if spec.required.isEmpty then .error (.noRequiredFields spec.name)
    else if spec.probes.any fun probe => probe.anyOf.isEmpty then .error (.emptyProbe spec.name)
    else
      .ok
        { name := spec.name
          directory := spec.directory
          pattern
          required := distinct spec.required
          optional := distinct spec.optional
          probes := spec.probes }

namespace AssetType

def matchesName (assetType : AssetType) (fileName : String) : Bool :=
  assetType.pattern.matches fileName.toList

/-- The path has a file name, and it matches. -/
def matchesPath (assetType : AssetType) (path : Path) : Bool :=
  path.fileName?.any assetType.matchesName

def allows (assetType : AssetType) (field : String) : Bool :=
  assetType.required.contains field || assetType.optional.contains field

/-- The fields that a file may have, without repetition. -/
def allowed (assetType : AssetType) : List String :=
  distinct (assetType.required ++ assetType.optional)

/-- Names of the keys that are no fields of the type, in document order. -/
def unknownFields (assetType : AssetType) (metadata : Yaml.Mapping) : List String :=
  (metadata.map fun entry => entry.1.keyName).filter fun name => !assetType.allows name

end AssetType
end AssetLint
