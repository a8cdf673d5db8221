import AssetLint.AssetType
import AssetLint.FileSystem
import AssetLint.Yaml.Error

/-!
The asset types of a run, in order. Names are distinct.
-/
namespace AssetLint

inductive RegistryError where
  | spec (error : SpecError)
  | repeatedName (name : String)
  | invalidFile (origin : String) (reason : Yaml.ReadError)
  | io (error : IoError)
  deriving Repr

namespace RegistryError

def message : RegistryError → String
  | spec (.noRequiredFields assetType) =>
    "asset type '" ++ assetType ++ "' must declare at least one required field"
  | spec (.invalidPattern assetType pattern reason) =>
    "asset type '" ++ assetType ++ "' has an invalid pattern '" ++ pattern ++ "': " ++ reason
  | spec (.emptyProbe assetType) =>
    "asset type '" ++ assetType ++ "' has a content probe with no needles"
  | repeatedName name => "asset type '" ++ name ++ "' is declared more than once"
  | invalidFile origin reason =>
    "invalid registry file '" ++ origin ++ "': " ++ reason.message
  | io error => "io error: " ++ error.message

/-- The message followed by those of its causes. -/
def chain : RegistryError → List String
  | io error => [message (io error), error.message]
  | error => [error.message]

end RegistryError

structure Registry where
  assetTypes : List AssetType
  deriving DecidableEq, Repr

namespace Registry

/-- Adds declarations one by one after those already there. -/
def extend (earlier : List AssetType) : List AssetSpec → Except RegistryError (List AssetType)
  | [] => .ok earlier
  | spec :: specs =>
    if earlier.any fun assetType => assetType.name = spec.name then
      .error (.repeatedName spec.name)
    else
      match spec.compile with
      | .error error => .error (.spec error)
      | .ok assetType => extend (earlier ++ [assetType]) specs

def ofSpecs (specs : List AssetSpec) : Except RegistryError Registry :=
  (extend [] specs).map Registry.mk

def find? (registry : Registry) (name : String) : Option AssetType :=
  registry.assetTypes.find? fun assetType => assetType.name = name

/-- The path lies in the directory of the type, under the root or by itself. -/
def holds (root : Path) (assetType : AssetType) (path : Path) : Bool :=
  path.startsWith (root.join assetType.directory) || path.startsWith assetType.directory

/-- The type that a path belongs to: the first whose directory holds it, and otherwise the
first whose pattern its file name matches. -/
def resolve (registry : Registry) (root path : Path) : Option AssetType :=
  match registry.assetTypes.find? fun assetType => holds root assetType path with
  | some assetType => some assetType
  | none =>
    match path.fileName? with
    | some name => registry.assetTypes.find? fun assetType => assetType.matchesName name
    | none => none

end Registry
end AssetLint
