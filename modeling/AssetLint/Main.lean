import AssetLint.CommandLine
import AssetLint.FileSystem.Listing

/-!
The program. It takes the entries of the file system from its input, in the form that
`find "$PWD" -printf '%y%p\0%l\0'` gives them, and reads the files among them.
-/
namespace AssetLint

/-- The content of a file that can be read. -/
def contentOf? : FileSystem.Listed → IO (Option ByteArray)
  | .file path => do
    try return some (← IO.FS.readBinFile path.text)
    catch _ => return none
  | _ => return none

def readFileSystem (entries : List FileSystem.Listed) (directory : Path) : IO FileSystem := do
  let mut fs : FileSystem := { nodes := [] }
  for entry in entries do
    let content ← contentOf? entry
    match fs.addListed entry content with
    | .ok next => fs := next
    | .error _ => pure ()
  let place := (fs.locate directory).toOption.getD []
  return { fs with workingDirectory := place, guarded := true }

end AssetLint

open AssetLint in
def main (arguments : List String) : IO UInt32 := do
  let input ← (← IO.getStdin).readToEnd
  let directory := (← IO.getEnv "PWD").getD "/"
  let fs ← readFileSystem (FileSystem.Listed.ofText input.toList) ⟨directory⟩
  let answer := CommandLine.execute fs arguments
  let output ← IO.getStdout
  output.write (ByteArray.mk answer.output.toArray)
  output.flush
  if let some complaint := answer.complaint then
    (← IO.getStderr).putStr complaint
  return answer.code.toUInt32
