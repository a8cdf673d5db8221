import AssetLint.FileSystem

/-!
Changes to a file system. Directories that are missing on the way to a new entry are made. An
entry is removed together with everything below it.
-/
namespace AssetLint.FileSystem

def defaultFileMode : Nat := 0o644
def defaultDirectoryMode : Nat := 0o755

/-- The entry at the location becomes the node, and no other entry changes. -/
def put (fs : FileSystem) (location : Location) (node : Node) : FileSystem :=
  { fs with nodes := (location, node) :: fs.nodes.filter fun entry => entry.1 ≠ location }

def removeAt (fs : FileSystem) (location : Location) : FileSystem :=
  { fs with nodes := fs.nodes.filter fun entry => !location.isSuffixOf entry.1 }

/-- What is at the location may be written to; for a directory, its entries may change. -/
def writable (fs : FileSystem) (location : Location) : Except IoError Unit :=
  match fs.node? location with
  | some (.file _ mode) | some (.directory mode) =>
    if fs.allows mode writeBit then .ok () else .error .permissionDenied
  | _ => .error .notFound

/-- One step from a directory, links followed. -/
def stepFrom (fs : FileSystem) (place : Location) (step : Step) : Lookup :=
  fs.within fs.enterDirectory maxLinks place [step]

/-- Goes along the steps and makes the directories that are missing. -/
def makeAlong (fs : FileSystem) : Location → List Step → Except IoError (FileSystem × Location)
  | place, [] => .ok (fs, place)
  | place, step :: rest =>
    match fs.stepFrom place step, step with
    | .ok next, _ =>
      if fs.isDirectoryAt next then fs.makeAlong next rest else .error .notADirectory
    | .error .notFound, .name text =>
      if (fs.node? (text :: place)).isSome then .error .alreadyExists
      else
        match fs.writable place with
        | .ok () =>
          let made := fs.put (text :: place) (.directory defaultDirectoryMode)
          made.makeAlong (text :: place) rest
        | .error error => .error error
    | .error error, _ => .error error

def makeDirectory (fs : FileSystem) (path : Path) : Except IoError FileSystem :=
  (fs.makeAlong (fs.start path) (steps path)).map Prod.fst

/-- The place of an entry whether it is there or not, the directories above it made. -/
def reach (fs : FileSystem) (path : Path) : Except IoError (FileSystem × Location) := do
  let all := steps path
  match all.getLast? with
  | some (.name text) =>
    let (fs, place) ← fs.makeAlong (fs.start path) all.dropLast
    return (fs, text :: place)
  | _ => fs.makeAlong (fs.start path) all

/-- Writes a file, through a link if there is one. -/
def writeFile (fs : FileSystem) (path : Path) (content : ByteArray) :
    Except IoError FileSystem := do
  let (fs, location) ← fs.reach path
  match fs.node? location with
  | some _ =>
    let target ← fs.locate path
    match fs.node? target with
    | some (.file _ mode) =>
      fs.writable target
      return fs.put target (.file content mode)
    | some (.directory _) => .error .isADirectory
    | _ => .error .notFound
  | none =>
    fs.writable location.tail
    return fs.put location (.file content defaultFileMode)

def makeLink (fs : FileSystem) (path target : Path) : Except IoError FileSystem := do
  let (fs, location) ← fs.reach path
  match fs.node? location with
  | some _ => .error .alreadyExists
  | none =>
    fs.writable location.tail
    return fs.put location (.link target)

def setMode (fs : FileSystem) (path : Path) (mode : Nat) : Except IoError FileSystem := do
  let location ← fs.locate path
  match fs.node? location with
  | some (.file content _) => return fs.put location (.file content mode)
  | some (.directory _) => return fs.put location (.directory mode)
  | _ => .error .notFound

/-- Removes an entry itself; a link is not followed. -/
def remove (fs : FileSystem) (path : Path) : Except IoError FileSystem := do
  let all := steps path
  match all.getLast? with
  | some (.name text) =>
    let place ← fs.within fs.enterDirectory maxLinks (fs.start path) all.dropLast
    match fs.node? (text :: place) with
    | some _ =>
      fs.writable place
      return fs.removeAt (text :: place)
    | none => .error .notFound
  | _ => return fs.removeAt (← fs.locate path)

end AssetLint.FileSystem
