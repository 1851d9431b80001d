import Pagewright.Archive.Validate
import Pagewright.Cache.Store
import Pagewright.Detection.Packaged
import Pagewright.Detection.Recommend
import Pagewright.Failure
import Pagewright.Host.Selection
import Pagewright.Import.Report
import Pagewright.Project.Analyzer
import Pagewright.Text.Scan

/-!
Importing projects in two steps. An upload checks and analyzes an archive and keeps the analysis for its
user. An import takes the analysis and the choices of the user, installs plugins, stores the pages as
drafts, and copies the images. An import goes on where a plugin, a page or an image fails, and reports the
failure. A choice is the slug that replaces a functionality, or `skip`; on the command line it is a key, an
equals sign and a slug, and white space around the key and the slug does not count.
-/

namespace Pagewright.Import

open Detection (Recommender Signatures ProCoverage)
open Host (Site SiteWork PluginRegistry DocumentStore MediaLibrary)

/-- The slug that leaves a functionality alone. -/
def skipSlug : String := "skip"

/-- A choice that is not written as one. -/
def invalidChoice (text : String) : Failure :=
  .validation s!"Invalid --choice '{text}', expected KEY=SLUG" "invalid_choice" [] []

/-- The key and the slug of a choice. -/
def readChoice (text : String) : Except Failure (String × String) :=
  match Text.cut? ['='] text.toList with
  | none => .error (invalidChoice text)
  | some (key, slug) =>
    let key := Text.trim key
    let slug := Text.trim slug
    if key.isEmpty || slug.isEmpty then .error (invalidChoice text)
    else .ok (String.ofList key, String.ofList slug)

/-- The choices that texts write; of two choices for one key the later slug counts. -/
def readChoices (texts : List String) : Except Failure (Table String) := do
  return Table.ofPairs (← texts.mapM readChoice)

/-- The parts of a site that imports work with. -/
structure Importer (ρ : Type) where
  /-- The directory with the data of the program. -/
  data : Path
  registry : PluginRegistry (Site ρ)
  store : DocumentStore (Site ρ)
  media : MediaLibrary (Site ρ)
  cache : Cache.Store
  signatures : Signatures
  preferences : Preferences.Store

namespace Importer

variable {ρ : Type}

/-- The number of seconds for which an analysis is kept. -/
def cacheLifetime : Work Value := do
  let seconds ← Settings.get "cache.ttl_seconds" (.int 3600)
  return .int (← Work.ofExcept (seconds.toInt.mapError .fault))

/-- The signatures that the settings name. -/
def configuredSignatures : Work Signatures := do
  let path ← Settings.signaturesPath?
  Work.ofExcept (Detection.signaturesAt (← get).files path)

/-- An importer whose parts are those given, or else those that the settings name. -/
def make (registry : Option (PluginRegistry (Site ρ))) (cache : Option Cache.Store)
    (signatures : Option Signatures) : Work (Importer ρ) := do
  let data ← Settings.dataDirectory
  let registry ← match registry with
    | some registry => pure registry
    | none => do pure ((← Host.registryFile .null (some data)).onSite ρ)
  let documents ← Host.documentDirectory .null (some data)
  let cache ← match cache with
    | some cache => pure cache
    | none => do pure (.below data (← cacheLifetime))
  let signatures ← match signatures with
    | some signatures => pure signatures
    | none => configuredSignatures
  return { data, registry, store := documents.onSite ρ, media := (Host.MediaDirectory.below data).onSite ρ,
           cache, signatures, preferences := .below data }

/-- Recommendations for the site. -/
def recommender (i : Importer ρ) : Work (Recommender ρ) := do
  return { signatures := i.signatures, registry := some i.registry, preferences := some i.preferences,
           proOverride := ← Settings.proOverride, coverage := .standard }

/-- An archive checked, analyzed and kept for a user; it goes by another name if one is given. -/
def upload (i : Importer ρ) (archive : Path) (user filename : String) : Work Upload := do
  let rules := { Archive.Rules.standard with maxSize := ← Settings.maxArchiveBytes }
  let report ← Work.ofExcept (rules.validate (← get).files archive filename)
  Project.withArchive archive fun project => do
    let detections ← Work.ofExcept ((Detection.detect i.signatures project).mapError .fault)
    let entry ← i.cache.put user project detections
    return ⟨entry.project, detections, report.warnings⟩

/-- What becomes of a failure in a batch: a reported one becomes a line, any other one ends the work. -/
def reportLine (batch : Batch) (what : String) (failure : Failure) : SiteWork ρ Batch :=
  if failure.isReported then return batch.withError s!"Failed to {what}: {failure.message}"
  else throw failure

/-- A plugin installed and activated. -/
def installPlugin (r : Recommender ρ) (slug : String) : SiteWork ρ Unit := do
  r.install slug
  r.activate slug

/-- A batch with the choice of a slug, unless there is nothing to do for it. -/
def installChoice (r : Recommender ρ) (batch : Batch) (choice : String × String) :
    SiteWork ρ Batch := do
  let slug := choice.2
  if slug.isEmpty || slug == skipSlug then return batch
  if ← SiteWork.ask (r.isActive slug) then return batch
  match ← SiteWork.outcome (installPlugin r slug) with
  | .ok () => return batch.withSuccess slug
  | .error failure => reportLine batch s!"install {slug}" failure

/-- The plugins of choices installed and activated. -/
def installChoices (i : Importer ρ) (choices : Table String) : SiteWork ρ Batch := do
  let r ← SiteWork.ofWork i.recommender
  choices.foldlM (installChoice r) .empty

/-- A batch with one image. -/
def importImage (i : Importer ρ) (batch : Batch) (image : Project.AssetFile) :
    SiteWork ρ Batch := do
  let file ← SiteWork.ask fun _ => (Cache.Store.imagePath image).mapError .fault
  match ← SiteWork.outcome (SiteWork.step (i.media.add file image.name)) with
  | .ok id => return batch.withSuccess id
  | .error failure => reportLine batch s!"import asset {image.name.text}" failure

/-- Images copied into the media library. -/
def importImages (i : Importer ρ) (images : List Project.AssetFile) : SiteWork ρ Batch :=
  images.foldlM i.importImage .empty

/-- The file with the stylesheet of a user. -/
def stylesheetFile (i : Importer ρ) (user : String) : Path :=
  i.data / "styles" / (Cache.userKey user ++ ".css")

/-- A stylesheet kept for a user, unless it is blank; whether it was kept. -/
def storeStylesheet (i : Importer ρ) (user : String) (style : Style.StyleData) : Work Bool := do
  let text := Style.generateStylesheet style
  if text.toList.all Text.isBlank then return false
  let file := i.stylesheetFile user
  Work.change (·.makeDirectories file.parent)
  Work.change (·.write file (.ofText text))
  return true

/-- The pages of a project stored as drafts; a page that is refused becomes a line. -/
def publishPages (i : Importer ρ) (style : Option Style.StyleData)
    (pages : List Project.SourceFile) : SiteWork ρ Page.Progress := do
  let site ← get
  let (progress, site, drawnIds) := Page.publish i.store (Page.settingsOf style) "draft" true pages
    (site, site.workspace.drawnIds)
  set { site with workspace := { site.workspace with drawnIds } }
  match progress.failure with
  | some failure => throw failure
  | none => return progress

/-- The style of a project kept for a user, and whether a stylesheet was kept. -/
def applyStyle (i : Importer ρ) (user : String) (project : Project) :
    Work (Style.StyleData × Bool) := do
  let style ← Work.ofExcept ((Style.extract project).mapError .fault)
  return (style, ← i.storeStylesheet user style)

/-- The analysis kept for a user imported. -/
def run (i : Importer ρ) (user : String) (choices : Table String) (options : Options) :
    SiteWork ρ Report := do
  match ← SiteWork.ofWork (i.cache.get user) with
  | none => throw (.notFound "analysis" user [])
  | some entry =>
    let project := entry.project
    if options.remember && !choices.isEmpty then
      SiteWork.ofWork (i.preferences.save (.object (choices.mapValues .str)))
    let plugins ← if options.plugins && !choices.isEmpty then i.installChoices choices else pure .empty
    let style ← if options.css then some <$> SiteWork.ofWork (i.applyStyle user project)
      else pure none
    let progress ← i.publishPages (style.map (·.1)) project.pages
    let images ← if options.assets then i.importImages project.assets.images else pure .empty
    SiteWork.ofWork (i.cache.delete user)
    return { pages := progress.published, plugins := plugins.succeeded,
             assets := images.succeeded.length, css := (style.map (·.2)).getD false,
             errors := plugins.errors ++ progress.refused ++ images.errors }

/-- The choice for a detected functionality: the explicit one, or the preferred solution. -/
def chooseFor (r : Recommender ρ) (explicit : Table String) (site : Site ρ) (key : String) :
    Except Failure (String × String) := do
  match explicit.get? key with
  | some slug => return (key, slug)
  | none => return (key, ((← r.preferred key site).map (·.slug)).getD skipSlug)

/-- The choices for an upload: one for every detected functionality, then the other explicit ones. -/
def resolveChoices (i : Importer ρ) (detected : List String) (explicit : Table String) :
    SiteWork ρ (Table String) := do
  let r ← SiteWork.ofWork i.recommender
  let chosen ← SiteWork.ask fun site => detected.mapM (chooseFor r explicit site)
  return explicit.foldl (fun choices (key, slug) => choices.putNew key slug) (Table.ofPairs chosen)

end Importer

end Pagewright.Import
