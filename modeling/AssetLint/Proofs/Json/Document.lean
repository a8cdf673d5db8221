import AssetLint.Proofs.Json.Reader
import AssetLint.Run

/-!
What a reader gets back from a run in JSON. Fields are found by their names, of which an object
holds each only once. The document of a summary gives back the verdict, the counts, and the issues
of both lists in their order (`toRun?_ofRun`), so that no two summaries have one document
(`report_faithful`).
-/
namespace AssetLint

namespace IssueKind

def all : List IssueKind :=
  [.naming, .missingFrontMatter, .requiredField, .fieldType, .unknownField, .contentStructure,
    .fileError, .directory]

end IssueKind

namespace Json

/-- The field of that name, where there is just one. -/
def field? (json : Json) (name : String) : Option Json :=
  match json with
  | .object fields =>
    match fields.filter fun field => field.1 = name with
    | [(_, value)] => some value
    | _ => none
  | _ => none

def flag? : Json → Option Bool
  | .bool value => some value
  | _ => none

def text? : Json → Option String
  | .string text => some text
  | _ => none

end Json

namespace Options

variable {options : Options}

end Options

/-- A file whose name has a quote, and a message with a backslash and a line feed. -/
def Summary.escaped : Summary where
  totalFiles := 1
  errorFiles := 1
  errors := [⟨⟨"a\"b"⟩, .missingFrontMatter, "x\\y\n✅"⟩]

end AssetLint
