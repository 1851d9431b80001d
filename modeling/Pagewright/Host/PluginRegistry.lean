import Pagewright.Failure
import Pagewright.Files.Tree

/-!
Plugin registries, which know the plugins of a host. The registry kept here is a YAML file: the plugins
by path with their state, the state of the pro tier, and the slugs that cannot be installed. A plugin
belongs to a slug when its path starts with the slug and a slash or names the script of the slug.
-/

namespace Pagewright.Host

/-- A plugin registry with a state. -/
structure PluginRegistry (σ : Type) where
  name : String
  isInstalled : String → σ → Except Failure Bool
  isActive : String → σ → Except Failure Bool
  install : String → σ → Except Failure Unit × σ
  activate : String → σ → Except Failure Unit × σ
  proDefined : σ → Except Failure Bool
  proActive : σ → Except Failure Bool

/-- A registry whose state is part of a larger one. -/
def PluginRegistry.within {σ τ : Type} (registry : PluginRegistry σ) (view : τ → σ)
    (update : τ → σ → τ) : PluginRegistry τ where
  name := registry.name
  isInstalled slug s := registry.isInstalled slug (view s)
  isActive slug s := registry.isActive slug (view s)
  install slug s := let (result, inner) := registry.install slug (view s); (result, update s inner)
  activate slug s := let (result, inner) := registry.activate slug (view s); (result, update s inner)
  proDefined s := registry.proDefined (view s)
  proActive s := registry.proActive (view s)

/-- Whether a plugin path belongs to a slug. -/
def belongsTo (slug path : String) : Bool :=
  Text.startsWith (slug ++ "/").toList path.toList || Text.occursIn (slug ++ ".php") path

/-- The first plugin path that belongs to a slug. -/
def matchPluginPath (paths : List String) (slug : String) : Option String :=
  paths.find? (belongsTo slug)

/-- A registry in a file. -/
structure RegistryFile where
  path : Path

namespace RegistryFile

/-- The registry file below a data directory. -/
def below (data : Path) : RegistryFile := ⟨data / "plugins.yaml"⟩

def noPro : Value := .object [("defined", .bool false), ("active", .bool false)]

/-- The sections of a registry that has none. -/
def emptyRegistry : Table Value := [("plugins", .object []), ("pro", noPro), ("unavailable", .list [])]

/-- Sections with an empty one in place of each that is missing. -/
def withSections (fields : Table Value) : Table Value :=
  ((fields.putNew "plugins" (.object [])).putNew "pro" noPro).putNew "unavailable" (.list [])

/-- The refusal of an unreadable registry. -/
def unreadable (r : RegistryFile) (fault : Fault) : Failure :=
  .collaborator s!"Plugin registry unreadable: {r.path.text}" "file" (some fault) []

/-- The sections of a registry. -/
def load (r : RegistryFile) (files : FileTree) : Except Failure (Table Value) := do
  if !(← files.isFile r.path) then return emptyRegistry
  match (files.read r.path).bind Content.yaml with
  | .ok data => return withSections (← (data.orElse (.object [])).fieldsFor "setdefault")
  | .error (.notYaml message) => throw (r.unreadable (.notYaml message))
  | .error fault => throw (if fault.isFile then r.unreadable fault else .fault fault)

/-- A section of a registry. -/
def sectionOf (data : Table Value) (name : String) : Value := (data.get? name).getD .null

/-- The plugins of a registry with their states. -/
def plugins (r : RegistryFile) (files : FileTree) : Except Failure Value.Entries := do
  return ← (sectionOf (← r.load files) "plugins").toEntries

/-- The first path among values that belongs to a slug. -/
def findAmong (slug : String) : List Value → Except Fault (Option String)
  | [] => .ok none
  | .str path :: rest => if belongsTo slug path then .ok (some path) else findAmong slug rest
  | v :: _ => .error (v.lacks "startswith")

/-- The plugin path of a slug in loaded sections. -/
def pathIn (data : Table Value) (slug : String) : Except Fault (Option String) := do
  findAmong slug (← (sectionOf data "plugins").items)

/-- The plugin path of a slug. -/
def find (r : RegistryFile) (slug : String) (files : FileTree) : Except Failure (Option String) := do
  return ← pathIn (← r.load files) slug

def isInstalled (r : RegistryFile) (slug : String) (files : FileTree) : Except Failure Bool := do
  return (← r.find slug files).isSome

/-- Whether the entry of a plugin says that it is active. -/
def activeEntry (v : Value) : Except Fault Bool := do
  return (← (v.orElse (.object [])).findD "active" (.bool false)).isTruthy

def isActive (r : RegistryFile) (slug : String) (files : FileTree) : Except Failure Bool := do
  let data ← r.load files
  match ← pathIn data slug with
  | none => return false
  | some path => return ← activeEntry (← (sectionOf data "plugins").member path)

/-- Files with the sections of a registry. -/
def save (r : RegistryFile) (data : Table Value) (files : FileTree) : Except Fault FileTree := do
  let files ← files.makeDirectories r.path.parent
  files.write r.path (.document .yaml (.object data))

/-- Whether a slug is listed among those that cannot be installed. -/
def isListed (slug : String) (v : Value) : Except Fault Bool :=
  match v with
  | .list items => .ok (items.any (·.isText slug))
  | .object fields => .ok (Table.has fields slug)
  | .str s => .ok (Text.occursIn slug s)
  | v => .error (.wrongType s!"argument of type '{v.kindName}' is not iterable")

/-- A value with a field put into it. -/
def withField (v : Value) (key : String) (field : Value) : Except Fault Value :=
  match v with
  | .object fields => .ok (.object (Table.put fields key field))
  | .list _ => .error (.wrongType "list indices must be integers or slices, not str")
  | v => .error (.wrongType s!"'{v.kindName}' object does not support item assignment")

/-- Files with a plugin installed. -/
def installed (r : RegistryFile) (slug : String) (files : FileTree) : Except Failure FileTree := do
  let data ← r.load files
  if (← pathIn data slug).isSome then return files
  if ← isListed slug (sectionOf data "unavailable") then
    throw (.collaborator s!"Plugin '{slug}' could not be downloaded" "file" none [("slug", .str slug)])
  let plugins ← withField (sectionOf data "plugins") (slug ++ "/" ++ slug ++ ".php")
    (.object [("active", .bool false)])
  return ← r.save (data.put "plugins" plugins) files

/-- The entry of a plugin, which may be missing. -/
def entryOf (plugins : Value) (path : String) : Except Fault Value := do
  return (← plugins.findD path .null).orElse (.object [])

/-- Files with a plugin activated. -/
def activated (r : RegistryFile) (slug : String) (files : FileTree) : Except Failure FileTree := do
  let data ← r.load files
  match ← pathIn data slug with
  | none => throw (.collaborator "Plugin file not found" "file" none [("slug", .str slug)])
  | some path =>
    let plugins := sectionOf data "plugins"
    let entry ← entryOf plugins path
    if (← entry.findD "active" .null).isTruthy then return files
    let plugins ← withField plugins path (← withField entry "active" (.bool true))
    return ← r.save (data.put "plugins" plugins) files

/-- Whether the pro tier is there. -/
def proDefined (r : RegistryFile) (files : FileTree) : Except Failure Bool := do
  let pro := sectionOf (← r.load files) "pro"
  return (← pro.findD "defined" (.bool false)).isTruthy

/-- Whether the pro tier is there and active. -/
def proActive (r : RegistryFile) (files : FileTree) : Except Failure Bool := do
  let pro := sectionOf (← r.load files) "pro"
  let defined ← pro.findD "defined" (.bool false)
  let active ← pro.findD "active" (.bool false)
  return defined.isTruthy && active.isTruthy

/-- A change of the files as a step of a registry; a refused one changes nothing. -/
def step (change : FileTree → Except Failure FileTree) (files : FileTree) :
    Except Failure Unit × FileTree :=
  match change files with
  | .ok files => (.ok (), files)
  | .error failure => (.error failure, files)

/-- The file as a plugin registry. -/
def registry (r : RegistryFile) : PluginRegistry FileTree where
  name := "file"
  isInstalled := r.isInstalled
  isActive := r.isActive
  install slug := step (r.installed slug)
  activate slug := step (r.activated slug)
  proDefined := r.proDefined
  proActive := r.proActive

end RegistryFile

end Pagewright.Host
