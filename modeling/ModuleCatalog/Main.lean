import ModuleCatalog.CommandLine.Run

/-!
The command line of the program. The file of the source list is read before the command runs, and
the files that the command leaves changed are written after it.
-/
namespace ModuleCatalog

/-- The place of the source list in the configuration directory. -/
def sourcesPathFromEnvironment : IO String := do
  let directory ←
    match ← IO.getEnv "XDG_CONFIG_HOME" with
    | some directory => pure directory
    | none => pure ((← IO.getEnv "HOME").getD "" ++ "/.config")
  return directory ++ "/ksurepo/sources.yaml"

/-- The tree that holds the file at a path, if it can be read. -/
def treeAt (path : String) : IO FileTree := do
  let made := (FileTree.empty.makeDirectories (Path.parentOf path)).1
  try
    let bytes ← IO.FS.readBinFile path
    return (made.write? path bytes).getD made
  catch _ => return .empty

def pathText : Path → String
  | "/" :: names => "/" ++ String.intercalate "/" names
  | names => String.intercalate "/" names

/-- Makes the directories and writes the files of a tree that another tree does not hold, the
directories around a file before it. -/
def writeChanges (before after : FileTree) : IO Unit := do
  let changed := after.nodes.toList.filter fun (path, node) => !(before.get? path).any node.isSame
  for (path, node) in changed.mergeSort fun a b => a.1.length ≤ b.1.length do
    match node with
    | .directory => IO.FS.createDirAll (pathText path)
    | .file bytes => IO.FS.writeBinFile (pathText path) bytes

/-- The place of the source list that the arguments name. -/
def pathFor (default : String) (args : List String) : String :=
  match CommandLine.parse? args with
  | some (.run settings _) => settings.sources.getD default
  | _ => default

end ModuleCatalog

open ModuleCatalog in
/-- Runs the program; without a network every request fails. -/
def main (args : List String) : IO UInt32 := do
  let default ← sourcesPathFromEnvironment
  let path := pathFor default args
  let files ← treeAt path
  let outcome := CommandLine.run ⟨.offline, files, default⟩ args
  for line in outcome.progress do
    IO.eprintln line
  IO.print outcome.output
  if let some message := outcome.error then
    IO.eprintln ("Error: " ++ message)
  if outcome.exit = 2 then
    IO.eprintln "error: the arguments are not understood"
  writeChanges files outcome.files
  return outcome.exit.toUInt32
