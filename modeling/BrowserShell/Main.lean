import BrowserShell.CommandLine.Run

/-!
# The program

Reads the files below the current directory, runs the command that the arguments name, and prints
what comes of it. There is no network here, so no address can be listened at.
-/

namespace BrowserShell

/-- Adds the files below a directory to a tree, `path` being the path of the directory there. -/
partial def addFiles (t : FileTree) (path : String) (entries : Array IO.FS.DirEntry) :
    IO FileTree := do
  let mut t := t
  for entry in entries do
    let name := path ++ entry.fileName
    if ← entry.path.isDir then
      t ← addFiles (t.write (name ++ "/") []) (name ++ "/") (← entry.path.readDir)
    else
      t := t.write name (← IO.FS.readBinFile entry.path).toList
  return t

/-- The files below the current directory. -/
def currentFiles : IO FileTree := do
  addFiles .empty "" (← (← IO.currentDir).readDir)

end BrowserShell

/-- Runs the program. -/
def main (args : List String) : IO UInt32 := do
  let files ← BrowserShell.currentFiles
  match BrowserShell.CommandLine.run files args with
  | .ended code output =>
    IO.print output
    return code.toUInt32
  | .serving c =>
    IO.eprintln ("failed to bind " ++ c.listener.bindAddress)
    return 1
