import ApiRoutes.CommandLine.Run

/-!
# The program

The requests answered in the folder of the running program.
-/

namespace ApiRoutes.CommandLine

/-- The text of a file, if there is one that can be read. -/
def readFile? (name : String) : IO (Option String) := do
  try
    return some (← IO.FS.readFile name)
  catch _ => return none

/-- The folder of the running program is a workspace. -/
instance : Workspace IO where
  has name := do
    try
      discard <| IO.FS.Handle.mk name .read
      return true
    catch _ => return false
  read? := readFile?
  addFolders name := do
    try
      IO.FS.createDirAll name
      return true
    catch _ => return false
  write name text := do
    try
      IO.FS.writeFile name text
      return .ok ()
    catch e => return .error (toString e)

end ApiRoutes.CommandLine

def main (args : List String) : IO UInt32 := do
  let outcome ← ApiRoutes.CommandLine.answerArgs args
  IO.print outcome.output
  IO.eprint outcome.report
  return outcome.code.toUInt32
