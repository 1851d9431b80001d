import Pagewright.Command.Run
import Pagewright.Settings.EnvFile
import Std.Time.DateTime.Timestamp

/-!
The program. It takes the files that a run can touch into a workspace, runs the command line there, prints
what the run printed, and writes back the files that the run changed.
-/

namespace Pagewright.Main

/-- The place of a path in the file tree. -/
def placeOf (current p : Path) : Place := (current.append p).parts

/-- The text of a place. -/
def textOf (place : Place) : String := (FileTree.pathOf place).text

/-- A tree with what stands at a place and below it. -/
partial def take (tree : FileTree) (place : Place) : IO FileTree := do
  let path := (← IO.currentDir) / textOf place
  if ← path.isDir then
    let tree := if place.isEmpty then tree else tree.put place .directory
    (← path.readDir).foldlM (fun tree entry => take tree (place ++ [entry.fileName])) tree
  else if ← path.pathExists then
    return tree.put place (.file (.bytes (← IO.FS.readBinFile path)))
  else return tree

/-- A tree with the directories above a place that are there. -/
def takeAbove (tree : FileTree) (place : Place) : IO FileTree :=
  (List.range place.length).foldlM (fun tree size => do
    let above := place.take size
    if !above.isEmpty && (← ((← IO.currentDir) / textOf above).isDir) then
      return tree.put above .directory
    else return tree) tree

/-- A workspace with the file or the directory at a path. -/
def takePath (w : Workspace) (p : Path) : IO Workspace := do
  let place := placeOf w.files.currentPath p
  let files ← take (← takeAbove w.files place) place
  return { w with files }

/-- A workspace with the directories above a path. -/
def takeAbovePath (w : Workspace) (p : Path) : IO Workspace := do
  let files ← takeAbove w.files (placeOf w.files.currentPath p ++ [""])
  return { w with files }

/-- The answer of work on a workspace that does not keep it. -/
def answer? {α : Type} (work : Work α) (w : Workspace) : Option α :=
  ((ExceptT.run work).run w).1.toOption

/-- The environment variables that a run asks for. -/
def variableNames : List String :=
  ["HOME", "L2WP_DEBUG"] ++ Settings.variableKeys.map (·.1) ++ Command.userVariables

/-- The variables that are set. -/
def readEnvironment : IO (Table String) :=
  variableNames.filterMapM fun name => do return (← IO.getEnv name).map fun text => (name, text)

/-- The time in seconds. -/
def readTime : IO Float := do
  return Float.ofInt (← Std.Time.Timestamp.now).toSecondsSinceUnixEpoch.val

/-- The files that settings are read from. -/
def settingsPaths (w : Workspace) : List Path :=
  (answer? Settings.userFile w).toList ++ (answer? Settings.projectFile w).toList
    ++ [w.files.currentPath / ".env"]

/-- The files and directories that the settings name. -/
def namedPaths (w : Workspace) : List Path :=
  (answer? Settings.dataDirectory w).toList ++ (answer? Settings.signaturesPath? w).join.toList
    ++ (answer? Fields.valuesFile w).toList

/-- The workspace of a run of the given words. -/
def gather (words : List String) : IO Workspace := do
  let current := Path.ofText (← IO.currentDir).toString
  let temporary := Path.ofText ((← IO.getEnv "TMPDIR").getD "/tmp")
  let w : Workspace :=
    .start { FileTree.empty with current := current.parts } (← readEnvironment) temporary (← readTime)
  let w ← takeAbovePath (← takeAbovePath w current) temporary
  let w ← (settingsPaths w).foldlM takePath w
  let w := ((ExceptT.run Settings.loadEnvironment).run w).2
  let w ← (namedPaths w).foldlM takePath w
  let directories := (answer? Settings.temporaryDirectory? w).join.toList
  let w ← directories.foldlM takeAbovePath w
  (words.map Path.ofText).foldlM takePath w

/-- Whether an entry holds the bytes of another one. -/
def sameEntry : Option Entry → Entry → Bool
  | some .directory, .directory => true
  | some (.file before), .file after => before.data == after.data
  | _, _ => false

/-- The changes from one tree to another one made to the files. -/
def writeBack (before after : FileTree) : IO Unit := do
  for (place, entry) in before.entries do
    if (after.find? place).isNone then
      match entry with
      | .file _ => IO.FS.removeFile (textOf place)
      | .directory => if ← ((← IO.currentDir) / textOf place).isDir then
          IO.FS.removeDirAll (textOf place)
  for (place, entry) in after.entries do
    if !sameEntry (before.find? place) entry then
      match entry with
      | .directory => IO.FS.createDirAll (textOf place)
      | .file content => IO.FS.writeBinFile (textOf place) content.data

end Pagewright.Main

open Pagewright in
def main (words : List String) : IO UInt32 := do
  let before ← Main.gather words
  let (result, after) := (ExceptT.run (Command.run words Settings.loadEnvironment)).run before
  IO.print after.printed
  Main.writeBack before.files after.files
  match result with
  | .ok (.misuse m) => IO.eprintln m.message
  | _ => pure ()
  return match result with
    | .ok exit => exit.number.toNat.toUInt32
    | .error _ => 1
