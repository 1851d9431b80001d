import Pagewright.Failure
import Pagewright.Path

/-!
The model of an analyzed project: its pages and components, its dependencies, its assets, the build
tool and the description that comes with it. The analysis fills the fields with texts; a model read
back from a file keeps whatever the file holds in them.
-/

namespace Pagewright.Project

def defaultName : String := "Lovable Project"

/-- A page or component source. -/
structure SourceFile where
  /-- The file name without its suffix. -/
  name : Value
  file : Value
  path : Value
  content : Value
  /-- The size in bytes. -/
  size : Int

/-- The dependencies of a project. -/
structure Manifest where
  name : String
  version : String
  dependencies : Table String
  devDependencies : Table String

/-- The manifest of a project without one. -/
def Manifest.empty : Manifest := ⟨"", "", [], []⟩

/-- Run-time and then development dependencies; of equal names the run-time one counts. -/
def Manifest.all (m : Manifest) : Table String :=
  m.devDependencies.foldl (fun acc entry => acc.putNew entry.1 entry.2) m.dependencies

/-- An image, a font or a stylesheet; only of a stylesheet the content is kept. -/
structure AssetFile where
  name : Value
  path : Value
  size : Int
  /-- The suffix of the file in lower case. -/
  type : Value
  content : Value

structure Assets where
  images : List AssetFile
  fonts : List AssetFile
  css : List AssetFile

def Assets.none : Assets := ⟨[], [], []⟩

def Assets.total (assets : Assets) : Nat :=
  assets.images.length + assets.fonts.length + assets.css.length

/-- The build tool and the top-level shape of a project. -/
structure BuildInfo where
  tool : Value
  hasSource : Value
  hasPublic : Value
  hasManifest : Value
  hasIndex : Value

def BuildInfo.unknown : BuildInfo :=
  ⟨.str "unknown", .bool false, .bool false, .bool false, .bool false⟩

/-- What the optional description of a project says. -/
structure Description where
  name : Value
  description : Value
  objective : Value
  audience : Value
  technologies : Value
  design : Value

def Description.empty : Description :=
  ⟨.str "", .str "", .str "", .str "", .list [], .object []⟩

end Project

/-- An analyzed project. -/
structure Project where
  name : Value
  description : Value
  pages : List Project.SourceFile
  components : List Project.SourceFile
  manifest : Project.Manifest
  assets : Project.Assets
  build : Project.BuildInfo
  details : Project.Description
  root : Option Path

/-- Pages and then components. -/
def Project.sources (project : Project) : List Project.SourceFile :=
  project.pages ++ project.components

end Pagewright
