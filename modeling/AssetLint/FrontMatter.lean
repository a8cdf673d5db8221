import AssetLint.Text.Lines
import AssetLint.Yaml.Decode

/-!
The header of a document: the lines between a first line `---` and the next such line, holding
a mapping. Marker lines may end in blanks, and a byte order mark may come before the first.
-/
namespace AssetLint.FrontMatter

def isMarker (line : List Char) : Bool :=
  Text.trimEnd line = ['-', '-', '-']

structure Split where
  header : List Char
  body : List Char
  deriving DecidableEq, Repr

def withoutByteOrderMark : List Char → List Char
  | '\ufeff' :: text => text
  | text => text

/-- An offset at which a text cannot be cut. -/
structure CutFault where
  offset : Nat
  deriving DecidableEq, Repr

def cut (text : List Char) (offset : Nat) : Except CutFault (List Char) :=
  match Text.takeBytes? offset text with
  | some before => .ok before
  | none => .error ⟨offset⟩

def withoutLastNewline (text : List Char) : List Char :=
  if text.getLast? = some '\n' then text.dropLast else text

/-- The header ends at the offset, and the body follows the closing marker line. -/
def closeAt (afterOpening : List Char) (offset : Nat) (body : List Char) :
    Except CutFault (Option Split) := do
  let header ← cut afterOpening offset
  return some ⟨withoutLastNewline header, body⟩

/-- Goes on to the closing marker line. The offset counts the bytes of the lines gone by. -/
def scan (afterOpening : List Char) (offset : Nat) (remaining : List Char) :
    Except CutFault (Option Split) :=
  match found : Text.splitOnce? '\n' remaining with
  | some (line, rest) =>
    if isMarker line then closeAt afterOpening offset rest
    else scan afterOpening (offset + (Text.byteLength line + 1)) rest
  | none => if isMarker remaining then closeAt afterOpening offset [] else .ok none
termination_by remaining.length
decreasing_by
  rw [Text.eq_of_splitOnce? found]
  simp
  omega

def split (text : List Char) : Except CutFault (Option Split) :=
  match Text.splitOnce? '\n' (withoutByteOrderMark text) with
  | some (first, afterOpening) =>
    if isMarker first then scan afterOpening 0 afterOpening else .ok none
  | none => .ok none

def split? (text : List Char) : Option Split :=
  match split text with
  | .ok parts => parts
  | .error _ => none

inductive HeaderError where
  | invalid (error : Yaml.ReadError)
  | empty
  | notAMapping (kind : String)
  deriving Repr

def HeaderError.message : HeaderError → String
  | invalid error => "Invalid YAML front-matter: " ++ error.message
  | empty => "Empty front-matter block"
  | notAMapping kind => "Front-matter must be a mapping, found " ++ kind

/-- Every line is blank or a comment. -/
def isBlankHeader (header : List Char) : Bool :=
  (Text.splitOn '\n' header).all fun line =>
    let line := Text.trim line
    line.isEmpty || line.head? = some '#'

def decode (header : List Char) : Except HeaderError Yaml.Mapping :=
  if isBlankHeader header then .error .empty
  else
    match Yaml.decodeValue header with
    | .error error => .error (.invalid error)
    | .ok (.mapping entries) => .ok entries
    | .ok .null => .error .empty
    | .ok value => .error (.notAMapping value.kind)

structure Document where
  rawHeader : List Char
  /-- Absent where the text has no header. -/
  metadata : Option Yaml.Mapping
  body : List Char
  deriving Repr

/-- A text without a header is all body. -/
def parse (text : List Char) : Except HeaderError Document :=
  match split? text with
  | none => .ok ⟨[], none, text⟩
  | some parts => do
    let metadata ← decode parts.header
    return ⟨parts.header, some metadata, parts.body⟩

end AssetLint.FrontMatter
