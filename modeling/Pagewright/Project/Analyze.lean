import Pagewright.Files.Tree
import Pagewright.Project.Codec

/-!
Analysis of a project directory: its pages, its components, the package manifest, the optional
description, the assets and the build tool. Files come in the order of their paths. A manifest that
cannot be decoded is refused, a description that cannot be decoded is passed over.
-/

namespace Pagewright.Project

def manifestFile : String := "package.json"

def descriptionFile : String := "project-structure.json"

def pageSuffixes : List String := [".tsx", ".jsx"]

def imageTypes : List String := ["jpg", "jpeg", "png", "gif", "svg", "webp"]

def fontTypes : List String := ["woff", "woff2", "ttf", "otf", "eot"]

/-- Directories in which images and fonts are looked for. -/
def assetDirectories : List String := ["public", "src/assets"]

/-- Stylesheets in the order in which they are listed. -/
def stylesheets : List String := ["src/index.css", "src/App.css"]

/-- Build tools with the files that tell them, in the order in which they are tried. -/
def buildTools : List (String × List String) :=
  [("vite", ["vite.config.ts", "vite.config.js"]), ("webpack", ["webpack.config.js"]),
    ("next", ["next.config.js"])]

/-- Whether a directory looks like the root of a project. -/
def hasProjectFiles (files : FileTree) (root : Path) : Except Fault Bool := do
  if ← files.isFile (root / manifestFile) then return true
  if ← files.isDirectory (root / "src") then return true
  files.isFile (root / "index.html")

/-- The build tool of a project. -/
def detectBuildTool (files : FileTree) (root : Path) : Except Fault String := do
  let found ← buildTools.findM? fun tool => tool.2.anyM fun name => files.isFile (root / name)
  return (found.map (·.1)).getD "unknown"

/-- A source file; its name is that of the file without its suffix. -/
def sourceFile (path : Path) (content : Content) : SourceFile :=
  ⟨.str path.stem, .str path.name, .str path.text, .str content.lenientText, content.size⟩

/-- The source of an entry that is a page or a component. -/
def source? (found : Path × Entry) : Option SourceFile :=
  match found.2 with
  | .file content =>
    if pageSuffixes.contains found.1.suffix then some (sourceFile found.1 content) else none
  | .directory => none

/-- The pages: the sources directly in their directory. -/
def detectPages (files : FileTree) (root : Path) : Except Fault (List SourceFile) := do
  let directory := root / "src" / "pages"
  if !(← files.isDirectory directory) then return []
  let found ← files.children directory
  return (found.mergeSort fun a b => Path.le a.1 b.1).filterMap source?

/-- The components: the sources anywhere below their directory. -/
def detectComponents (files : FileTree) (root : Path) : Except Fault (List SourceFile) := do
  return (← files.descendants (root / "src" / "components")).filterMap source?

/-- The value of a JSON file, or why it cannot be decoded. -/
def loadJson (files : FileTree) (path : Path) : Except Failure Value := do
  match (← files.read path).json with
  | .ok v => return v
  | .error fault => throw (.undecodable fault path.name)

/-- The manifest of a project; one that is no object counts as empty. -/
def readManifest (files : FileTree) (root : Path) : Except Failure Manifest := do
  let path := root / manifestFile
  if !(← files.isFile path) then return .empty
  match ← loadJson files path with
  | .object fields => Manifest.read (.object fields) manifestFile
  | _ => return .empty

/-- A field of a description, or the empty text. -/
def describedText (fields : Table Value) (key : String) : Value :=
  ((fields.get? key).getD .null).orElse (.str "")

/-- The technologies of a description as texts; anything but a list counts as none. -/
def describedTechnologies (fields : Table Value) : Value :=
  match (fields.get? "tecnologias").getD .null with
  | .list items => .texts (items.map Value.text)
  | _ => .list []

/-- The design of a description; anything but an object counts as empty. -/
def describedDesign (fields : Table Value) : Value :=
  match (fields.get? "diseño").getD .null with
  | .object design => .object design
  | _ => .object []

/-- The description that a decoded file holds. -/
def descriptionOf (data : Value) : Description :=
  match data with
  | .object top => match Table.get? top "proyecto" with
    | some (.object fields) =>
      ⟨describedText fields "nombre", describedText fields "descripcion",
        describedText fields "objetivo", describedText fields "publico_objetivo",
        describedTechnologies fields, describedDesign fields⟩
    | _ => .empty
  | _ => .empty

/-- The description of a project; a file that cannot be decoded is passed over. -/
def readDescription (files : FileTree) (root : Path) : Except Fault Description := do
  let path := root / descriptionFile
  if !(← files.isFile path) then return .empty
  match (← files.read path).json with
  | .ok data => return descriptionOf data
  | .error _ => return .empty

/-- An asset of one of the given types. -/
def assetOf? (types : List String) (found : Path × Entry) : Option AssetFile :=
  match found.2 with
  | .file content =>
    let type := found.1.fileType
    if types.contains type then
      some ⟨.str found.1.name, .str found.1.text, content.size, .str type, .str ""⟩
    else none
  | .directory => none

/-- A stylesheet with its content, if it is there. -/
def stylesheet? (files : FileTree) (path : Path) : Except Fault (Option AssetFile) := do
  if !(← files.isFile path) then return none
  let content ← files.read path
  return some ⟨.str path.name, .str path.text, content.size, .str "css", .str content.lenientText⟩

/-- The assets of a project. -/
def detectAssets (files : FileTree) (root : Path) : Except Fault Assets := do
  let found ← assetDirectories.flatMapM fun name => files.descendants (root / name)
  let css ← stylesheets.filterMapM fun name => stylesheet? files (root / name)
  return ⟨found.filterMap (assetOf? imageTypes), found.filterMap (assetOf? fontTypes), css⟩

/-- The build tool and the top-level shape of a project. -/
def readBuildInfo (files : FileTree) (root : Path) : Except Fault BuildInfo := do
  let tool ← detectBuildTool files root
  let hasSource ← files.isDirectory (root / "src")
  let hasPublic ← files.isDirectory (root / "public")
  let hasManifest ← files.isFile (root / manifestFile)
  let hasIndex ← files.isFile (root / "index.html")
  return ⟨.str tool, .bool hasSource, .bool hasPublic, .bool hasManifest, .bool hasIndex⟩

/-- The project in a directory. -/
def analyzeDirectory (files : FileTree) (root : Path) : Except Failure Project := do
  let details ← readDescription files root
  let pages ← detectPages files root
  let components ← detectComponents files root
  let manifest ← readManifest files root
  let assets ← detectAssets files root
  let build ← readBuildInfo files root
  return ⟨details.name.orElse (.str defaultName), details.description, pages, components, manifest,
    assets, build, details, some root⟩

end Pagewright.Project
