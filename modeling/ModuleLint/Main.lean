import ModuleLint.Command.Run

/-!
# The program

Reads the project tree below the working directory, runs the program on it, and writes what it
has to say. The whole tree is read, as a command line may lead anywhere in it, but links to
directories are not followed.
-/

namespace ModuleLint.Main

/-- The files and directories that a directory lists. What cannot be listed is left out. -/
partial def directoryOf (listing : IO (Array IO.FS.DirEntry)) : IO Directory := do
  let listed ← try listing catch _ => pure #[]
  let mut entries : Directory := []
  for e in listed do
    let found ← try
        match (← e.path.symlinkMetadata).type with
        | .dir => pure (some (Entry.directory (← directoryOf e.path.readDir)))
        | .file => pure (some (Entry.file (← IO.FS.readBinFile e.path).data.toList))
        | .symlink =>
          match (← e.path.metadata).type with
          | .file => pure (some (Entry.file (← IO.FS.readBinFile e.path).data.toList))
          | _ => pure none
        | .other => pure none
      catch _ => pure none
    entries := (found.map fun entry => (e.fileName, entry)).toList ++ entries
  return entries

/-- What is said of a failure. -/
def failureText : Command.Failure → String
  | .config _ => "the configuration file holds a value of no use"
  | .pattern fault => "an ignore pattern cannot be matched: " ++ fault.message

end ModuleLint.Main

open ModuleLint in
/-- Runs the program on the arguments in the working directory. -/
def main (args : List String) : IO UInt32 := do
  let here ← IO.currentDir
  let tree ← Main.directoryOf here.readDir
  let colour ← (← IO.getStdout).isTty
  match Command.run tree colour args with
  | .ok o =>
    IO.print o.out
    IO.eprint o.err
    return UInt32.ofNat o.status
  | .error fault =>
    IO.eprintln ("structlint: " ++ Main.failureText fault)
    return 1
