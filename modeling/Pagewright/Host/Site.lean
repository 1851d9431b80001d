import Pagewright.Host.MediaLibrary
import Pagewright.Host.PluginRegistry
import Pagewright.Workspace

/-!
A site: the workspace together with the state of a host outside of it. The collaborators of a site may
use both.
-/

namespace Pagewright.Host

/-- A workspace and the state of a host. -/
structure Site (ρ : Type) where
  workspace : Workspace
  host : ρ

/-- Working on a site, and failing. -/
abbrev SiteWork (ρ : Type) := ExceptT Failure (StateM (Site ρ))

namespace SiteWork

variable {ρ α : Type}

/-- Work on the workspace of a site. -/
def ofWork (work : Work α) : SiteWork ρ α := do
  let site ← get
  let (result, workspace) := work.run site.workspace
  set { site with workspace }
  match result with
  | .ok v => return v
  | .error failure => throw failure

/-- A question to a site. -/
def ask (question : Site ρ → Except Failure α) : SiteWork ρ α := do
  match question (← get) with
  | .ok v => return v
  | .error failure => throw failure

/-- A step on a site. -/
def step (operation : Site ρ → Except Failure α × Site ρ) : SiteWork ρ α := do
  let (result, site) := operation (← get)
  set site
  match result with
  | .ok v => return v
  | .error failure => throw failure

/-- The outcome of a piece of work, with the site it left. -/
def outcome (work : SiteWork ρ α) : SiteWork ρ (Except Failure α) := do
  let (result, site) := (ExceptT.run work).run (← get)
  set site
  return result

/-- Work on a site without a host outside of the workspace. -/
def alone (work : SiteWork Unit α) : Work α := do
  let (result, site) := (ExceptT.run work).run ⟨← get, ()⟩
  set site.workspace
  Work.ofExcept result

end SiteWork

/-- The files of a site. -/
def Site.files {ρ : Type} (site : Site ρ) : FileTree := site.workspace.files

/-- A site with other files. -/
def Site.withFiles {ρ : Type} (site : Site ρ) (files : FileTree) : Site ρ :=
  { site with workspace := { site.workspace with files } }

/-- A registry in a file, for a site. -/
def RegistryFile.onSite (r : RegistryFile) (ρ : Type) : PluginRegistry (Site ρ) :=
  r.registry.within Site.files Site.withFiles

/-- A document directory, for a site. -/
def DocumentDirectory.onSite (d : DocumentDirectory) (ρ : Type) : DocumentStore (Site ρ) where
  name := d.store.name
  create document site :=
    let (result, files) := d.create document site.files
    (result, site.withFiles files)

/-- A media directory, for a site. -/
def MediaDirectory.onSite (d : MediaDirectory) (ρ : Type) : MediaLibrary (Site ρ) where
  name := d.library.name
  add file name site :=
    let (result, files) := d.add file name site.files
    (result, site.withFiles files)

end Pagewright.Host
