import AssetLint.Path

/-!
A finite file system seen by one process. Every entry has a location, its names from the
innermost to the outermost; the root is a directory at the empty location. Links are followed
at most forty times in one look-up. Where permissions count, they are those of others: reading
a file, listing a directory and searching one for a name each need their bit.
-/
namespace AssetLint

/-- Names from the innermost to the outermost. -/
abbrev Location := List String

inductive Node where
  | file (content : ByteArray) (mode : Nat)
  | directory (mode : Nat)
  | link (target : Path)

inductive IoError where
  | notFound
  | permissionDenied
  | notADirectory
  | isADirectory
  | nameTooLong
  | tooManyLinks
  | nulInName
  | notText
  | alreadyExists
  | inputOutput
  deriving DecidableEq, Repr

def IoError.message : IoError → String
  | notFound => "No such file or directory (os error 2)"
  | permissionDenied => "Permission denied (os error 13)"
  | notADirectory => "Not a directory (os error 20)"
  | isADirectory => "Is a directory (os error 21)"
  | nameTooLong => "File name too long (os error 36)"
  | tooManyLinks => "Too many levels of symbolic links (os error 40)"
  | nulInName => "file name contained an unexpected NUL byte"
  | notText => "stream did not contain valid UTF-8"
  | alreadyExists => "File exists (os error 17)"
  | inputOutput => "Input/output error (os error 5)"

structure FileSystem where
  nodes : List (Location × Node)
  workingDirectory : Location := []
  /-- Permission bits count. -/
  guarded : Bool := false
  /-- Directories whose listing breaks off with an error after so many entries. -/
  faults : List (Location × Nat × IoError) := []
  /-- Characters that stand in paths for octets that are not UTF-8, as the replacement character
  does where a path is shown. -/
  strays : List Char := []

namespace FileSystem

def isUtf8 (fs : FileSystem) (path : Path) : Bool :=
  path.text.toList.all fun c => c ∉ fs.strays

def readBit : Nat := 4
def writeBit : Nat := 2
def searchBit : Nat := 1

def node? (fs : FileSystem) (location : Location) : Option Node :=
  if location = [] then some (.directory 0o755)
  else (fs.nodes.find? fun entry => entry.1 = location).map Prod.snd

def isDirectoryAt (fs : FileSystem) (location : Location) : Bool :=
  match fs.node? location with
  | some (.directory _) => true
  | _ => false

def allows (fs : FileSystem) (mode bit : Nat) : Bool :=
  !fs.guarded || mode &&& bit ≠ 0

/-- A part of a path to be looked up. -/
inductive Step where
  | here
  | up
  | name (text : String)
  /-- A trailing separator. -/
  | mustBeDirectory
  deriving DecidableEq, Repr

def stepOf? (part : List Char) : Option Step :=
  if part = [] then none
  else if part = ['.'] then some .here
  else if part = ['.', '.'] then some .up
  else some (.name (String.ofList part))

/-- The parts of a path after its root; of the empty ones only the last counts. -/
def steps (path : Path) : List Step :=
  let parts := Text.splitOn '/' path.text.toList
  parts.filterMap stepOf? ++ if parts.getLast? = some [] then [.mustBeDirectory] else []

def maxLinks : Nat := 40
def maxNameBytes : Nat := 255
def maxPathBytes : Nat := 4095

abbrev Lookup := Except IoError Location

/-- The directory at a location can be searched. -/
def searchable (fs : FileSystem) (location : Location) : Except IoError Unit :=
  match fs.node? location with
  | some (.directory mode) => if fs.allows mode searchBit then .ok () else .error .permissionDenied
  | some _ => .error .notADirectory
  | none => .error .notFound

/-- The directory and everything above it can be searched. -/
def searchableFromRoot (fs : FileSystem) : Location → Except IoError Unit
  | [] => fs.searchable []
  | name :: outer => do
    fs.searchableFromRoot outer
    fs.searchable (name :: outer)

/-- Goes along the steps. `enter` is what a directory needs before a step from it, and `follow`
goes on at a link. -/
def along (fs : FileSystem) (enter : Location → Step → Except IoError Unit)
    (follow : Location → List Step → Lookup) : Location → List Step → Lookup
  | place, [] => .ok place
  | place, step :: rest => do
    enter place step
    match step with
    | .here => fs.along enter follow place rest
    | .up => fs.along enter follow place.tail rest
    | .mustBeDirectory =>
      if fs.isDirectoryAt place then fs.along enter follow place rest
      else .error .notADirectory
    | .name text =>
      if maxNameBytes < text.utf8ByteSize then .error .nameTooLong
      else
        match fs.node? (text :: place) with
        | none => .error .notFound
        | some (.link target) =>
          follow (if target.isAbsolute then [] else place) (steps target ++ rest)
        | some _ => fs.along enter follow (text :: place) rest

/-- Goes along the steps with so many links left to follow. -/
def within (fs : FileSystem) (enter : Location → Step → Except IoError Unit) :
    Nat → Location → List Step → Lookup
  | 0 => fs.along enter fun _ _ => .error .tooManyLinks
  | links + 1 => fs.along enter (fs.within enter links)

/-- Where the look-up of a path starts. -/
def start (fs : FileSystem) (path : Path) : Location :=
  if path.isAbsolute then [] else fs.workingDirectory

def lookup (fs : FileSystem) (enter : Location → Step → Except IoError Unit) (path : Path) :
    Lookup :=
  if path.text.toList.contains '\x00' then .error .nulInName
  else if path.text.isEmpty then .error .notFound
  else if maxPathBytes < path.text.utf8ByteSize then .error .nameTooLong
  else fs.within enter maxLinks (fs.start path) (steps path)

/-- A step leaves a directory that can be searched. -/
def enterDirectory (fs : FileSystem) (place : Location) : Step → Except IoError Unit
  | .mustBeDirectory => .ok ()
  | _ => fs.searchable place

/-- The location that a path names. A relative path starts at the working directory itself,
so what is above that directory need not be searchable. -/
def locate (fs : FileSystem) (path : Path) : Lookup :=
  fs.lookup fs.enterDirectory path

/-- A name is looked up in a directory that can be searched from the root on. -/
def enterFromRoot (fs : FileSystem) (place : Location) : Step → Except IoError Unit
  | .name _ => fs.searchableFromRoot place
  | _ => .ok ()

/-- The location as an absolute path, for which everything above it must be searchable. -/
def canonical (fs : FileSystem) (path : Path) : Lookup :=
  fs.lookup fs.enterFromRoot path

def exists? (fs : FileSystem) (path : Path) : Bool :=
  (fs.locate path).isOk

def isDirectory (fs : FileSystem) (path : Path) : Bool :=
  match fs.locate path with
  | .ok location => fs.isDirectoryAt location
  | .error _ => false

/-- Names of the entries of a directory. -/
def namesAt (fs : FileSystem) (location : Location) : List String :=
  fs.nodes.filterMap fun entry =>
    match entry.1 with
    | name :: outer => if outer = location then some name else none
    | [] => none

/-- What a listing of a directory gives, name by name. -/
def entriesAt (fs : FileSystem) (location : Location) : List (Except IoError String) :=
  match fs.faults.find? fun fault => fault.1 = location with
  | none => (fs.namesAt location).map .ok
  | some (_, count, error) => ((fs.namesAt location).take count).map .ok ++ [.error error]

def listAt (fs : FileSystem) (location : Location) :
    Except IoError (List (Except IoError String)) :=
  match fs.node? location with
  | some (.directory mode) =>
    if fs.allows mode readBit then .ok (fs.entriesAt location) else .error .permissionDenied
  | some _ => .error .notADirectory
  | none => .error .notFound

def list (fs : FileSystem) (path : Path) : Except IoError (List (Except IoError String)) := do
  fs.listAt (← fs.locate path)

def readText (fs : FileSystem) (path : Path) : Except IoError (List Char) := do
  let location ← fs.locate path
  match fs.node? location with
  | some (.directory mode) =>
    if fs.allows mode readBit then .error .isADirectory else .error .permissionDenied
  | some (.file content mode) =>
    if !fs.allows mode readBit then .error .permissionDenied
    else
      match String.fromUTF8? content with
      | some text => return text.toList
      | none => .error .notText
  | _ => .error .notFound

/-- Locations of all directories, the root first. -/
def directories (fs : FileSystem) : List Location :=
  [] :: (fs.nodes.filter fun entry => fs.isDirectoryAt entry.1).map Prod.fst

theorem mem_directories {fs : FileSystem} {location : Location} :
    location ∈ fs.directories ↔ fs.isDirectoryAt location = true := by
  simp only [directories, List.mem_cons, List.mem_map, List.mem_filter]
  constructor
  · rintro (root | ⟨entry, ⟨_, directory⟩, same⟩)
    · simp [root, isDirectoryAt, node?]
    · rw [← same]
      exact directory
  · intro directory
    by_cases root : location = []
    · exact .inl root
    · have found := directory
      simp only [isDirectoryAt, node?, root, if_false] at found
      cases entry : fs.nodes.find? fun entry => decide (entry.1 = location) with
      | none => simp [entry] at found
      | some pair =>
        have member := List.mem_of_find?_eq_some entry
        have same := List.find?_some entry
        simp only [decide_eq_true_eq] at same
        exact .inr ⟨pair, ⟨member, by rw [same]; exact directory⟩, same⟩

end FileSystem
end AssetLint
