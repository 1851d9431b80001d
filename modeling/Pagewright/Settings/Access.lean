import Pagewright.Settings.EnvFile

/-!
Reading and changing settings. They are resolved from their layers once and remembered; a change to the
file of the user makes them forgotten. A settings file that is absent or malformed holds none.
-/

namespace Pagewright.Settings

/-- The table in a settings file. -/
def readFile (files : FileTree) (file : Path) : Except Fault (Table Value) := do
  if !(← files.isFile file) then return []
  match files.read file with
  | .ok content => content.toml
  | .error _ => return []

/-- A settings file written. What stands before a value that settings cannot hold is kept. -/
def writeFile (file : Path) (data : Table Value) : Work Unit := do
  Work.change (·.makeDirectories file.parent)
  match Toml.print data with
  | (_, none) => Work.change (·.write file (.document .toml (.object data)))
  | (text, some fault) =>
    Work.change (·.write file (.ofText text))
    throw (.fault fault)

/-- A file, if it is there. -/
def present? (files : FileTree) (file : Path) : Except Fault (Option Path) := do
  return if ← files.isFile file then some file else none

/-- The settings that the layers make now. -/
def refresh : Work Resolved := do
  let user ← userFile
  let userData ← Work.ask (readFile · user)
  let project ← projectFile
  let projectData ← Work.ask (readFile · project)
  let data := resolve userData projectData (← get).environment
  let resolved : Resolved :=
    ⟨data, ← Work.ask (present? · user), ← Work.ask (present? · project)⟩
  modify fun w => { w with settings := some resolved }
  return resolved

/-- The settings. -/
def resolved : Work Resolved := do
  match (← get).settings with
  | some resolved => return resolved
  | none => refresh

/-- The settings forgotten. -/
def reset : Work Unit := modify fun w => { w with settings := none }

/-- The value of a setting, or a default where it has none. -/
def get (key : String) (default : Value) : Work Value := do
  return getD (.object (← resolved).data) key default

/-- The path that a setting gives, if it gives one. -/
def path? (key : String) : Work (Option Path) := do
  let v ← get key (.str "")
  if v.isTruthy then
    return some (← Work.ofExcept ((pathOf (← MonadState.get).environment v).mapError .fault))
  else return none

/-- The directory with the data of the program. -/
def dataDirectory : Work Path := do
  match ← path? "data_dir" with
  | some directory => return directory
  | none =>
    let home ← Work.ofExcept ((homeDirectory (← MonadState.get).environment).mapError .fault)
    return home / ".l2wp"

def bytesPerMegabyte : Int := 1024 * 1024

/-- The greatest size of an archive in bytes. -/
def maxArchiveBytes : Work Int := do
  let size ← get "archive.max_size_mb" (.int 50)
  return (← Work.ofExcept (size.toInt.mapError .fault)) * bytesPerMegabyte

/-- Where archives are unpacked, if not in the directory for temporary files. -/
def temporaryDirectory? : Work (Option Path) := path? "archive.temp_dir"

/-- The table of signatures that is used in place of the packaged one, if any. -/
def signaturesPath? : Work (Option Path) := path? "detection.signatures_path"

/-- The state of the pro tier, where it is fixed. -/
def proOverride : Work (Option Bool) := do
  match ← get "host.pro_active" (.str "auto") with
  | .bool active => return some active
  | _ => return none

/-- The name of the field provider of a namespace. -/
def fieldProviderName (namespaceName : String) : Work String := do
  let v ← get ("fields." ++ namespaceName) (.str "null")
  return (v.orElse (.str "null")).text

/-- A setting put into the file of the user. -/
def setUser (key : String) (v : Value) : Work Unit := do
  let file ← userFile
  let data ← Work.ask (readFile · file)
  writeFile file (set data key v)
  reset

/-- The settings of a new project. -/
def projectDefaults : Table Value :=
  [("data_dir", .str "./l2wp-data"), ("archive", .object [("max_size_mb", .int 50)]),
    ("fields", .object [("acf", .str "null"), ("jet", .str "null"), ("mb", .str "null")])]

/-- A new settings file in the working directory. -/
def initProject : Work Path := do
  let file ← projectFile
  if ← Work.ask (·.exists? file) then
    throw (.fault (.alreadyExists s!"Project config already exists: {file.text}"))
  writeFile file projectDefaults
  return file

/-- The settings as they are now, and the files that they come from. -/
def overview : Work Value := do
  let now ← refresh
  let shown (file : Option Path) : Value := .ofText? (file.map Path.text)
  return .object [("resolved", .object now.data),
    ("sources", .object [("global_config", shown now.userFile),
      ("project_config", shown now.projectFile)])]

/-- A path and whether something is there. -/
def locationText (path : Path) (found : Bool) : String :=
  let state := if found then "exists" else "not found"
  s!"{path.text} ({state})"

/-- The places of settings and data. -/
def locations : Work (Table String) := do
  let user ← userFile
  let project ← projectFile
  let data ← dataDirectory
  return [("global_config", locationText user (← Work.ask (·.isFile user))),
    ("project_config", locationText project (← Work.ask (·.isFile project))),
    ("data_dir", locationText data (← Work.ask (·.exists? data)))]

end Pagewright.Settings
