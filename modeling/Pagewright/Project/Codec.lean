import Pagewright.Project.Model

/-!
Project models as document values and back. Reading fills in defaults for missing fields, takes sizes
as whole numbers and refuses dependency tables that are no objects.
-/

namespace Pagewright.Project

/-- Whether a key occurs in a value and what stands under it, for values that list named fields. -/
def namedField (v : Value) (key : String) : Except Fault (Option Value) :=
  match v with
  | .object fields => .ok (Table.get? fields key)
  | .list items =>
    if items.any (·.isText key) then some <$> v.member key else .ok none
  | .str s => if Text.occursIn key s then some <$> v.member key else .ok none
  | v => .error (.wrongType s!"argument of type '{v.kindName}' is not iterable")

/-- A named field or a default. -/
def namedFieldD (v : Value) (key : String) (default : Value) : Except Fault Value := do
  return (← namedField v key).getD default

def SourceFile.toValue (file : SourceFile) (withContent : Bool) : Value :=
  .object ([("name", file.name), ("file", file.file), ("path", file.path)]
    ++ (if withContent then [("content", file.content)] else [])
    ++ [("size", .int file.size)])

def SourceFile.read (data : Value) : Except Fault SourceFile := do
  let name ← data.member "name"
  let file ← data.member "file"
  let path ← data.findD "path" (.str "")
  let content ← data.findD "content" (.str "")
  let size ← (← data.findD "size" (.int 0)).toInt
  return ⟨name, file, path, content, size⟩

def textTable (table : Table String) : Value := .object (table.mapValues .str)

def Manifest.toValue (m : Manifest) : Value :=
  .object [("name", .str m.name), ("version", .str m.version),
    ("dependencies", textTable m.dependencies), ("devDependencies", textTable m.devDependencies)]

/-- A dependency table: versions as text. A value that is no object is refused. -/
def dependencyTable (key source : String) (table : Value) : Except Failure (Table String) :=
  match table.orElse (.object []) with
  | .object fields => .ok (Table.mapValues Value.text fields)
  | _ => .error (.malformedInput .grammar source (.stated s!"'{key}' must be an object"))

/-- The manifest that a decoded package description holds. -/
def Manifest.read (data : Value) (source : String) : Except Failure Manifest := do
  let field (key : String) : Except Fault Value := data.findD key .null
  let dependencies ← dependencyTable "dependencies" source (← field "dependencies")
  let dev ← field "devDependencies"
  let devDependencies ← dependencyTable "devDependencies" source
    (dev.orElse (← field "dev_dependencies"))
  let text (v : Value) : String := (v.orElse (.str "")).text
  return ⟨text (← field "name"), text (← field "version"), dependencies, devDependencies⟩

def AssetFile.toValue (asset : AssetFile) : Value :=
  .object [("name", asset.name), ("path", asset.path), ("size", .int asset.size),
    ("type", asset.type), ("content", asset.content)]

def AssetFile.read (data : Value) : Except Fault AssetFile := do
  let name ← data.member "name"
  let path ← data.findD "path" (.str "")
  let size ← (← data.findD "size" (.int 0)).toInt
  let type ← data.findD "type" (.str "")
  return ⟨name, path, size, type, ← data.findD "content" (.str "")⟩

def Assets.toValue (assets : Assets) : Value :=
  .object [("images", .list (assets.images.map AssetFile.toValue)),
    ("fonts", .list (assets.fonts.map AssetFile.toValue)),
    ("css", .list (assets.css.map AssetFile.toValue))]

/-- The items under a key that lists something. -/
def listed (data : Value) (key : String) : Except Fault (List Value) := do
  (← data.findD key (.list [])).items

/-- The items under a key, each read. -/
def readListed {α : Type} (data : Value) (key : String) (read : Value → Except Fault α) :
    Except Fault (List α) := do
  (← listed data key).mapM read

def Assets.read (data : Value) : Except Fault Assets := do
  let images ← readListed data "images" AssetFile.read
  let fonts ← readListed data "fonts" AssetFile.read
  let css ← readListed data "css" AssetFile.read
  return ⟨images, fonts, css⟩

def BuildInfo.toValue (info : BuildInfo) : Value :=
  .object [("build_tool", info.tool), ("has_src", info.hasSource), ("has_public", info.hasPublic),
    ("has_manifest", info.hasManifest), ("has_index_html", info.hasIndex)]

def BuildInfo.read (data : Value) : Except Fault BuildInfo := do
  let none := BuildInfo.unknown
  let tool ← namedFieldD data "build_tool" none.tool
  let hasSource ← namedFieldD data "has_src" none.hasSource
  let hasPublic ← namedFieldD data "has_public" none.hasPublic
  let hasManifest ← namedFieldD data "has_manifest" none.hasManifest
  return ⟨tool, hasSource, hasPublic, hasManifest, ← namedFieldD data "has_index_html" none.hasIndex⟩

def Description.toValue (d : Description) : Value :=
  .object [("name", d.name), ("description", d.description), ("objective", d.objective),
    ("target_audience", d.audience), ("technologies", d.technologies), ("design", d.design)]

def Description.read (data : Value) : Except Fault Description := do
  let none := Description.empty
  let name ← namedFieldD data "name" none.name
  let description ← namedFieldD data "description" none.description
  let objective ← namedFieldD data "objective" none.objective
  let audience ← namedFieldD data "target_audience" none.audience
  let technologies ← namedFieldD data "technologies" none.technologies
  return ⟨name, description, objective, audience, technologies,
    ← namedFieldD data "design" none.design⟩

end Project

namespace Project

/-- A project as a document value, with or without the content of its sources. -/
def toValue (project : Project) (withContent : Bool) : Value :=
  .object [("project_name", project.name), ("description", project.description),
    ("pages", .list (project.pages.map (·.toValue withContent))),
    ("components", .list (project.components.map (·.toValue withContent))),
    ("manifest", project.manifest.toValue), ("assets", project.assets.toValue),
    ("build", project.build.toValue), ("metadata", project.details.toValue),
    ("root_path", Value.ofText? (project.root.map Path.text))]

/-- The path that a value names, if it is present. -/
def readPath? (v : Value) : Except Fault (Option Path) :=
  if !v.isTruthy then .ok none
  else match v with
    | .str s => .ok (some (Path.ofText s))
    | v => .error (.wrongType
        s!"expected str, bytes or os.PathLike object, not {v.kindName}")

/-- The project that a document value holds. -/
def read (data : Value) : Except Failure Project := do
  let root ← data.findD "root_path" .null
  let name ← data.findD "project_name" .null
  let description ← data.findD "description" (.str "")
  let pages ← readListed data "pages" SourceFile.read
  let components ← readListed data "components" SourceFile.read
  let manifest ← Manifest.read (← data.findD "manifest" (.object [])) "package.json"
  let assets ← Assets.read (← data.findD "assets" (.object []))
  let build ← BuildInfo.read (← data.findD "build" (.object []))
  let details ← Description.read (← data.findD "metadata" (.object []))
  return ⟨name.orElse (.str defaultName), description, pages, components, manifest, assets, build,
    details, ← readPath? root⟩

end Project

end Pagewright
