import AssetLint.FileSystem.Change

/-!
Listings of a file system. An entry is two texts, each ended by a null character: a letter for
its kind with its path right after it, and the target if it is a link.
-/
namespace AssetLint.FileSystem

inductive Listed where
  | file (path : Path)
  | directory (path : Path)
  | link (path target : Path)
  deriving DecidableEq, Repr

namespace Listed

/-- Entries of other kinds are left out. -/
def ofTexts? (head target : List Char) : Option Listed :=
  match head with
  | 'f' :: path => some (.file ⟨String.ofList path⟩)
  | 'd' :: path => some (.directory ⟨String.ofList path⟩)
  | 'l' :: path => some (.link ⟨String.ofList path⟩ ⟨String.ofList target⟩)
  | _ => none

def ofFields : List (List Char) → List Listed
  | head :: target :: rest => (ofTexts? head target).toList ++ ofFields rest
  | _ => []

def ofText (text : List Char) : List Listed :=
  ofFields (Text.splitOn '\x00' text)

end Listed

/-- Adds a listed entry; a file that could not be read has no content. -/
def addListed (fs : FileSystem) (entry : Listed) (content : Option ByteArray) :
    Except IoError FileSystem :=
  match entry, content with
  | .directory path, _ => fs.makeDirectory path
  | .link path target, _ => fs.makeLink path target
  | .file path, some content => fs.writeFile path content
  | .file path, none => do
    let fs ← fs.writeFile path ByteArray.empty
    fs.setMode path 0

end AssetLint.FileSystem
