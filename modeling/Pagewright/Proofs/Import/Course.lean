import Pagewright.Proofs.Faults
import Pagewright.Proofs.Import.Choices

/-! The course of an import that nothing of its batches holds up. Every plugin, page and image is tried
in turn, and a failure of one of them, whatever it is, becomes a line of the report. -/
namespace Pagewright.Import
open Detection (Recommender)
open Host (Site SiteWork DocumentStore)

/-- What becomes of an item: there is nothing to do for it, it goes through, or it fails, which is
reported in a line. -/
inductive Fate (β : Type) where
  | idle
  | done (value : β)
  | failed (line : String) (failure : Failure)

namespace Fate

variable {β : Type}

def value? : Fate β → Option β
  | done value => some value
  | _ => none

def line? : Fate β → Option String
  | failed line _ => some line
  | _ => none

/-- Whether an item does not fail, or fails in a way that is reported in words of its own. -/
def isSound : Fate β → Bool
  | failed _ failure => failure.isReported
  | _ => true

/-- The fate of an item by what the work on it came to. -/
def of (line : Failure → String) : Except Failure (Option β) → Fate β
  | .ok none => idle
  | .ok (some value) => done value
  | .error failure => failed (line failure) failure

end Fate

/-- The values of the items that went through. -/
def values {β : Type} (fates : List (Fate β)) : List β := fates.filterMap Fate.value?

/-- The lines about the items that failed. -/
def lines {β : Type} (fates : List (Fate β)) : List String := fates.filterMap Fate.line?

def allSound {β : Type} (fates : List (Fate β)) : Bool := fates.all Fate.isSound

/-- An item tried. -/
def attempt {σ β : Type} (line : Failure → String) (work : ExceptT Failure (StateM σ) (Option β)) :
    ExceptT Failure (StateM σ) (Fate β) := do
  let outcome ← ExceptT.lift work.run
  return Fate.of line outcome

/-- The fates of the items of an import, and whether a stylesheet was kept. -/
structure Course where
  plugins : List (Fate String)
  css : Bool
  pages : List (Fate Page.Published)
  images : List (Fate String)

/-- The report that accounts for every item. -/
def Course.report (c : Course) : Report where
  pages := values c.pages
  plugins := values c.plugins
  assets := (values c.images).length
  css := c.css
  errors := lines c.plugins ++ lines c.pages ++ lines c.images

/-- Whether no item fails with a fault. -/
def Course.isSound (c : Course) : Bool := allSound c.plugins && allSound c.pages && allSound c.images

namespace Importer

variable {ρ : Type}

/-- The line about an image that was refused. -/
def imageLine (image : Project.AssetFile) (failure : Failure) : String :=
  s!"Failed to import asset {image.name.text}: {failure.message}"

/-- A slug installed and activated, unless there is nothing to do for it. -/
def choiceWork (r : Recommender ρ) (slug : String) : SiteWork ρ (Option String) := do
  if slug.isEmpty || slug == skipSlug then return none
  if ← SiteWork.ask (r.isActive slug) then return none
  installPlugin r slug
  return some slug

/-- One page stored; a refusal counts as a failure. -/
def pageWork {σ : Type} (store : DocumentStore σ) (settings : Table Value) (page : Project.SourceFile) :
    Page.Storing σ (Option Page.Published) := do
  match ← Page.publishPage store settings "draft" page with
  | .ok published => return some published
  | .error failure => throw failure

variable (i : Importer ρ)

def imageWork (image : Project.AssetFile) : SiteWork ρ (Option String) := do
  let file ← SiteWork.ask fun _ => (Cache.Store.imagePath image).mapError .fault
  some <$> SiteWork.step (i.media.add file image.name)

/-- Storing as work on a site, which goes on drawing node ids. -/
def storing {α : Type} (work : Page.Storing (Site ρ) α) : SiteWork ρ α := do
  let site ← get
  let (result,site,drawnIds) := work.run.run (site,site.workspace.drawnIds)
  set { site with workspace := { site.workspace with drawnIds } }
  match result with
  | .ok v => return v
  | .error failure => throw failure

def tryPages (style : Option Style.StyleData) (pages : List Project.SourceFile) :
    SiteWork ρ (List (Fate Page.Published)) :=
  storing (pages.mapM fun page => attempt (Page.refusalLine page) (pageWork i.store (Page.settingsOf style) page))

section Around

variable (user : String) (choices : Table String) (options : Options)

def tryChoices : SiteWork ρ (List (Fate String)) :=
  if options.plugins && !choices.isEmpty then do
    let r ← SiteWork.ofWork i.recommender
    choices.mapM fun choice => attempt (refusedLine choice.2) (choiceWork r choice.2)
  else return []

def tryImages (images : List Project.AssetFile) : SiteWork ρ (List (Fate String)) :=
  if options.assets then images.mapM fun image => attempt (imageLine image) (i.imageWork image)
  else return []

def saveChoices : SiteWork ρ Unit :=
  if options.remember && !choices.isEmpty then
    SiteWork.ofWork (i.preferences.save (.object (choices.mapValues .str)))
  else return ()

def styleOf (project : Project) : SiteWork ρ (Option (Style.StyleData × Bool)) :=
  if options.css then some <$> SiteWork.ofWork (i.applyStyle user project) else return none

/-- The steps of an import around its three batches. -/
def around {α β γ δ : Type} (plugins : SiteWork ρ α)
    (pages : Option Style.StyleData → List Project.SourceFile → SiteWork ρ β)
    (images : List Project.AssetFile → SiteWork ρ γ) (conclude : α → Bool → β → γ → δ) :
    SiteWork ρ δ := do
  match ← SiteWork.ofWork (i.cache.get user) with
  | none => throw (.notFound "analysis" user [])
  | some entry =>
    i.saveChoices choices options
    let installed ← plugins
    let style ← i.styleOf user options entry.project
    let published ← pages (style.map (·.1)) entry.project.pages
    let imported ← images entry.project.assets.images
    SiteWork.ofWork (i.cache.delete user)
    return conclude installed ((style.map (·.2)).getD false) published imported

/-- An import that goes on whatever becomes of its items. -/
def course : SiteWork ρ Course :=
  i.around user choices options (i.tryChoices choices options) i.tryPages (i.tryImages options) Course.mk

def batchReport (plugins : Batch) (css : Bool) (progress : Page.Progress) (images : Batch) : Report where
  pages := progress.published
  plugins := plugins.succeeded
  assets := images.succeeded.length
  css := css
  errors := plugins.errors ++ progress.refused ++ images.errors

def pluginBatch : SiteWork ρ Batch :=
  if options.plugins && !choices.isEmpty then i.installChoices choices else return .empty

def imageBatch (images : List Project.AssetFile) : SiteWork ρ Batch :=
  if options.assets then i.importImages images else return .empty

/-- An import takes the steps of its course, with batches that a failure may end. -/
theorem run_around : i.run user choices options = i.around user choices options
    (i.pluginBatch choices options) i.publishPages (i.imageBatch options) batchReport := by
  unfold run around
  congr 1
  funext found
  cases found with
  | none => rfl
  | some entry =>
    unfold saveChoices pluginBatch styleOf imageBatch
    cases (options.remember && !choices.isEmpty) <;> cases (options.plugins && !choices.isEmpty) <;>
      cases options.css <;> cases options.assets <;> rfl

end Around

/-- What the steps of an import give, and where they leave the site. -/
structure Trace (ρ : Type) where
  entry : Cache.Entry
  asked : Workspace
  saved : Site ρ
  plugins : Batch
  installed : Site ρ
  style : Option (Style.StyleData × Bool)
  styled : Site ρ
  progress : Page.Progress
  published : Site ρ
  images : Batch
  imported : Site ρ
  cleared : Workspace

/-- The site in the end. -/
def Trace.final (trace : Trace ρ) : Site ρ := { trace.imported with workspace := trace.cleared }

def Trace.report (trace : Trace ρ) : Report :=
  batchReport trace.plugins ((trace.style.map (·.2)).getD false) trace.progress trace.images

section Traced

variable (user : String) (choices : Table String) (options : Options) (site : Site ρ)

/-- An import takes the steps of a trace. -/
structure Traced (trace : Trace ρ) : Prop where
  asks : (i.cache.get user).run.run site.workspace = (.ok (some trace.entry),trace.asked)
  saves : (i.saveChoices choices options).run.run { site with workspace := trace.asked } = (.ok (),trace.saved)
  installs : (i.pluginBatch choices options).run.run trace.saved = (.ok trace.plugins,trace.installed)
  styles : (i.styleOf user options trace.entry.project).run.run trace.installed = (.ok trace.style,trace.styled)
  publishes : (i.publishPages (trace.style.map (·.1)) trace.entry.project.pages).run.run trace.styled =
    (.ok trace.progress,trace.published)
  imports : (i.imageBatch options trace.entry.project.assets.images).run.run trace.published =
    (.ok trace.images,trace.imported)
  clears : (i.cache.delete user).run.run trace.imported.workspace = (.ok (),trace.cleared)

theorem run_traced (trace : Trace ρ) (traced : i.Traced user choices options site trace) :
    (i.run user choices options).run.run site = (.ok trace.report,trace.final) := by
  rw [run_around]
  unfold around
  rw [run_bind,SiteWork.ofWork_run,traced.asks]
  dsimp only
  rw [run_bind,traced.saves]
  dsimp only
  rw [run_bind,traced.installs]
  dsimp only
  rw [run_bind,traced.styles]
  dsimp only
  rw [run_bind,traced.publishes]
  dsimp only
  rw [run_bind,traced.imports]
  dsimp only
  rw [run_bind,SiteWork.ofWork_run,traced.clears]
  rfl

/-- An import that returns has taken the steps of a trace. -/
theorem run_success (report : Report) (final : Site ρ)
    (ok : (i.run user choices options).run.run site = (.ok report,final)) :
    ∃ trace, i.Traced user choices options site trace ∧ report = trace.report ∧ final = trace.final := by
  rw [run_around] at ok
  obtain ⟨found,opened,got,ok⟩ := run_bind_success _ _ _ _ _ ok
  obtain ⟨asked,asks,rfl⟩ := SiteWork.ofWork_success site _ _ _ got
  cases found with
  | none => cases ok
  | some entry =>
    obtain ⟨_,saved,saves,ok⟩ := run_bind_success _ _ _ _ _ ok
    obtain ⟨plugins,installed,installs,ok⟩ := run_bind_success _ _ _ _ _ ok
    obtain ⟨style,styled,styles,ok⟩ := run_bind_success _ _ _ _ _ ok
    obtain ⟨progress,published,publishes,ok⟩ := run_bind_success _ _ _ _ _ ok
    obtain ⟨images,imported,imports,ok⟩ := run_bind_success _ _ _ _ _ ok
    obtain ⟨_,left,deletes,ok⟩ := run_bind_success _ _ _ _ _ ok
    cases ok
    obtain ⟨cleared,clears,rfl⟩ := SiteWork.ofWork_success imported _ _ _ deletes
    exact ⟨⟨entry,asked,saved,plugins,installed,style,styled,progress,published,images,imported,cleared⟩,
      ⟨asks,saves,installs,styles,publishes,imports,clears⟩,rfl,rfl⟩

end Traced

end Importer

end Pagewright.Import
