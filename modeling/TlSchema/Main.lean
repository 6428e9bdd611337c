import TlSchema.Command.Run

/-!
# The program

Runs the commands on the files of the working directory.
-/

namespace TlSchema.Command

/-- What an error says about files. -/
def faultOf : IO.Error → FileFault
  | .noFileOrDirectory _ _ _ => .missing
  | e => .other (toString e)

/-- The outcome of an action that may fail. -/
def attempt {α : Type} (action : IO α) : IO (Except FileFault α) := do
  try
    return .ok (← action)
  catch e => return .error (faultOf e)

/-- Whether something is at a path. -/
def pathIsPresent (path : String) : IO Bool := do
  let here ← IO.currentDir
  (here / path).pathExists

/-- Removes all that is in a directory, and then the directory by the same path. The path may lead
through what is in the directory; then it leads nowhere by the time the directory is empty. -/
def removeWithContents (path : String) : IO Unit := do
  let directory ← IO.FS.realPath path
  for entry in ← directory.readDir do
    if (← entry.path.symlinkMetadata).type == .dir then IO.FS.removeDirAll entry.path
    else IO.FS.removeFile entry.path
  if ← pathIsPresent path then IO.FS.removeDir path

instance : FileAccess IO where
  read path := attempt (IO.FS.readBinFile path)
  write path contents := attempt (IO.FS.writeBinFile path contents)
  isPresent := pathIsPresent
  isDirectory path := do
    let here ← IO.currentDir
    (here / path).isDir
  list path := attempt do
    let here ← IO.currentDir
    let entries ← (here / path).readDir
    return entries.toList.map (·.fileName)
  removeDirectory path := attempt (removeWithContents path)
  createDirectory path := attempt (IO.FS.createDir path)

end TlSchema.Command

/-- Runs the program with the given arguments. -/
def main (arguments : List String) : IO UInt32 := do
  let outcome ← (TlSchema.Command.run arguments : IO _)
  IO.print outcome.output
  match outcome.error? with
  | some error => IO.eprintln ("Error: " ++ error)
  | none =>
    if outcome.status = 2 then IO.eprintln TlSchema.Command.programHelp
  return outcome.status.toUInt32
