import Pagewright.Proofs.Cache.Persistence
import Pagewright.Proofs.Cache.Progress
import Pagewright.Proofs.Host.Directories
import Pagewright.Proofs.Import.FailSoft
import Pagewright.Proofs.Import.Handled

/-!
The accounting of an import. An import that goes through has handled every choice, page and image once, in
order, and reports each of them on one side. A page that is reported as stored has its document in the
store at the end, made of the tree that its source was translated to in this run.
-/
namespace Pagewright.Import
open Detection (Recommender)
open Host (DocumentDirectory DocumentStore MediaDirectory MediaLibrary NewDocument Site SiteWork)

namespace Importer

variable {ρ : Type} (i : Importer ρ) (user : String) (choices : Table String) (options : Options)

/-- What is held of the documents that the store has taken: a document from the moment on when it is
taken, whatever the store, the media library and the cache are asked to do after that. -/
structure Recall where
  holds : Site ρ → String → NewDocument → Prop
  created : ∀ document site id site', i.store.create document site = (.ok id,site') →
    holds site' id document
  creating : ∀ document site outcome site' id old, i.store.create document site = (outcome,site') →
    holds site id old → holds site' id old
  adding : ∀ file name site outcome site' id old, i.media.add file name site = (outcome,site') →
    holds site id old → holds site' id old
  clearing : ∀ (site : Site ρ) outcome w id old, (i.cache.delete user).run.run site.workspace = (outcome,w) →
    holds site id old → holds { site with workspace := w } id old
  drawing : ∀ (site : Site ρ) drawnIds id old, holds site id old →
    holds { site with workspace := { site.workspace with drawnIds } } id old

/-- The settings of the pages: the cleaned stylesheet as custom CSS, where it is applied and not empty. -/
def pageSettings (project : Project) : Table Value :=
  let css := String.ofList (Style.clean (Style.combinedCss project))
  if options.css && !css.isEmpty then [("custom_css",.str css)] else []

/-- What an import has to show for itself: the cached analysis, the fates of its items, and the sites
between its batches. -/
structure Ledger (ρ : Type) where
  entry : Cache.Entry
  course : Course
  recommender : Recommender ρ
  saved : Site ρ
  prepared : Site ρ
  installed : Site ρ
  styled : Site ρ
  published : Site ρ × Nat
  imported : Site ρ

/-- The ledger of an import that has ended on a site. -/
structure Balanced {i : Importer ρ} {user : String} (memory : i.Recall user) (choices : Table String)
    (options : Options) (site final : Site ρ) (ledger : Ledger ρ) : Prop where
  opened : ∃ w, (i.cache.get user).run.run site.workspace = (.ok (some ledger.entry),w) ∧
    (i.saveChoices choices options).run.run { site with workspace := w } = (.ok (),ledger.saved)
  ready : (if options.plugins then choices else []) = [] ∧ ledger.prepared = ledger.saved ∨
    (SiteWork.ofWork i.recommender).run.run ledger.saved = (.ok ledger.recommender,ledger.prepared)
  choices : Handled (ChoiceFate ledger.recommender) (if options.plugins then choices else [])
    ledger.prepared ledger.course.plugins ledger.installed
  styled : ∃ style, (i.styleOf user options ledger.entry.project).run.run ledger.installed =
    (.ok style,ledger.styled)
  pages : Handled (PageFate i.store (pageSettings options ledger.entry.project) (memory.holds final))
    ledger.entry.project.pages (ledger.styled,ledger.styled.workspace.drawnIds) ledger.course.pages
    ledger.published
  images : Handled (ImageFate i.media) (if options.assets then ledger.entry.project.assets.images else [])
    (drawn ledger.published) ledger.course.images ledger.imported
  cleared : (i.cache.delete user).run.run ledger.imported.workspace = (.ok (),final.workspace)
  gone : (i.cache.get user).run.run final.workspace = (.ok none,final.workspace)

theorem below_place (current : Place) (data : Path) (name : String)
    (plain : Path.IsComponent name ∧ name ≠ "..") : FileTree.destination current (data / name) =
      FileTree.destination current data ++ [name] :=
  FileTree.destination_name current data name plain.1 plain.2

/-- With documents, media files and a cache in directories of their own below one data directory, every
document stays in its file. -/
def fileRecall (data : Path) (stamp : String) (stored : i.store = (DocumentDirectory.below data stamp).onSite ρ)
    (kept : i.media = (MediaDirectory.below data).onSite ρ) (cached : i.cache.directory = data / "cache") :
    i.Recall user where
  holds site := (DocumentDirectory.below data stamp).Holds site.files
  created document site id site' ok := by
    rw [stored] at ok
    obtain ⟨given,rfl⟩ := Prod.mk.inj ok
    exact DocumentDirectory.create_holds _ site.files _ document id (Prod.ext given rfl)
  creating document site outcome site' id old ok held := by
    rw [stored] at ok
    obtain ⟨_,rfl⟩ := Prod.mk.inj ok
    exact DocumentDirectory.create_keeps _ site.files document id old held
  adding file name site outcome site' id old ok held := by
    rw [kept] at ok
    obtain ⟨_,rfl⟩ := Prod.mk.inj ok
    have changes := (MediaDirectory.below data).add_changes site.files file name
    refine DocumentDirectory.holds_later _ _ _ changes ?_ (fun _ never => never) id old held
    rintro other ⟨name,same⟩
    have directories := (List.append_inj' same rfl).1
    rw [DocumentDirectory.below,MediaDirectory.below,below_place _ data _ (by decide),
      below_place _ data _ (by decide)] at directories
    exact absurd (FileTree.child_inj _ _ _ directories) (by decide)
  clearing site outcome w id old ok held := by
    have changes := i.cache.delete_changes user site.workspace
    have after : (i.cache.delete user).after site.workspace = w := by
      unfold Work.after
      rw [ok]
    rw [after] at changes
    refine DocumentDirectory.holds_later _ _ _ changes (fun _ never => never) ?_ id old held
    intro name own
    have inside := i.cache.ownGround_inside _ user _ own
    rw [Cache.Store.base,cached,DocumentDirectory.below,below_place _ data _ (by decide),
      below_place _ data _ (by decide),List.append_assoc] at inside
    exact absurd (List.cons_prefix_cons.mp ((List.prefix_append_right_inj _).mp inside)).1 (by decide)
  drawing _ _ _ _ held := held

section Steps

variable {i user} (memory : i.Recall user)

/-- Documents that are held on one site are held on another one. -/
def Recall.Lasts (site site' : Site ρ) : Prop := ∀ id old, memory.holds site id old → memory.holds site' id old

theorem pageFate_lasts (settings : Table Value) (held : String → NewDocument → Prop)
    (page : Project.SourceFile) (s s' : Site ρ × Nat) (fate : Fate Page.Published)
    (handled : PageFate i.store settings held page s fate s') : memory.Lasts s.1 s'.1 := by
  cases handled with
  | stored _ _ _ _ _ _ _ _ _ created _ => exact fun id old => memory.creating _ _ _ _ id old created
  | refused _ _ _ _ _ _ _ _ _ ended _ => exact fun id old => memory.creating _ _ _ _ id old ended

theorem imageFates_last (images : List Project.AssetFile) (site site' : Site ρ) (fates : List (Fate String))
    (handled : Handled (ImageFate i.media) images site fates site') : memory.Lasts site site' := by
  induction handled with
  | nil => exact fun _ _ => id
  | cons image site fate site₁ images fates site₂ head _ ih =>
    intro id old held
    refine ih id old ?_
    cases head with
    | taken _ _ _ _ added => exact memory.adding _ _ _ _ _ id old added held
    | refused _ _ _ _ ended _ => exact memory.adding _ _ _ _ _ id old ended held

/-- A page that was handled is accounted for on any later site where its document still is. -/
theorem publish_handled (settings : Table Value) (pages : List Project.SourceFile) (s s' : Site ρ × Nat)
    (progress : Page.Progress) (final : Site ρ)
    (published : Page.publish i.store settings "draft" true pages s = (progress,s'))
    (complete : progress.failure = none) (lasts : memory.Lasts s'.1 final) :
    ∃ fates, Handled (PageFate i.store settings (memory.holds final)) pages s fates s' ∧
      progress = progressOf fates ∧ memory.Lasts s.1 final := by
  -- What the first page stored has to last through all pages after it, so their induction comes first.
  induction pages generalizing s progress with
  | nil =>
    cases published
    exact ⟨[],.nil _,rfl,lasts⟩
  | cons page pages ih =>
    rw [publish_step] at published
    obtain ⟨site,drawn⟩ := s
    generalize ran : (Page.publishPage i.store settings "draft" page).run.run (site,drawn) = outcome at published
    obtain ⟨answer,site₁,drawn₁⟩ := outcome
    rcases later : Page.publish i.store settings "draft" true pages (site₁,drawn₁) with ⟨progress₁,s₁⟩
    rcases answer with failure | answer
    · cases published
      cases complete
    · obtain ⟨source,tree,result,content,translated,created,rfl⟩ :=
        publishPage_success i.store settings page site site₁ drawn drawn₁ answer ran
      rcases result with failure | id
      · dsimp only [Except.map] at published
        rw [later] at published
        split at published
        next reported =>
          cases published
          obtain ⟨fates,tail,rfl,kept⟩ := ih (site₁,drawn₁) progress₁ later complete
          have head : PageFate i.store settings (memory.holds final) page (site,drawn)
              (.failed (Page.refusalLine page failure) failure) (site₁,drawn₁) :=
            .refused site site₁ drawn drawn₁ source tree failure content translated created reported
          refine ⟨_,.cons _ _ _ _ _ _ _ head tail,?_,fun id old held => ?_⟩
          · simp [before,progressOf,values_cons,lines_cons]
          · exact kept id old (pageFate_lasts memory settings _ page _ _ _ head id old held)
        next =>
          cases published
          cases complete
      · dsimp only [Except.map] at published
        rw [later] at published
        cases published
        obtain ⟨fates,tail,rfl,kept⟩ := ih (site₁,drawn₁) progress₁ later complete
        have head : PageFate i.store settings (memory.holds final) page (site,drawn)
            (.done ⟨page.name,id,tree.length⟩) (site₁,drawn₁) :=
          .stored site site₁ drawn drawn₁ source id tree content translated created
            (kept id _ (memory.created _ _ _ _ created))
        refine ⟨_,.cons _ _ _ _ _ _ _ head tail,?_,fun id old held => ?_⟩
        · simp [before,progressOf,values_cons,lines_cons]
        · exact kept id old (pageFate_lasts memory settings _ page _ _ _ head id old held)

end Steps

theorem publishPages_success (style : Option Style.StyleData) (pages : List Project.SourceFile)
    (site site' : Site ρ) (progress : Page.Progress)
    (ok : (i.publishPages style pages).run.run site = (.ok progress,site')) :
    ∃ after, Page.publish i.store (Page.settingsOf style) "draft" true pages
      (site,site.workspace.drawnIds) = (progress,after) ∧ progress.failure = none ∧ site' = drawn after := by
  rcases ran : Page.publish i.store (Page.settingsOf style) "draft" true pages
    (site,site.workspace.drawnIds) with ⟨progress',after⟩
  rw [i.publishPages_run style pages site progress' after ran] at ok
  obtain ⟨published,refused,failure⟩ := progress'
  cases failure with
  | some failure => cases ok
  | none =>
    cases ok
    exact ⟨after,rfl,rfl,rfl⟩

theorem pluginBatch_handled (site site' : Site ρ) (batch : Batch)
    (ok : (i.pluginBatch choices options).run.run site = (.ok batch,site')) :
    ∃ r prepared fates, ((if options.plugins then choices else []) = [] ∧ prepared = site ∨
        (SiteWork.ofWork i.recommender).run.run site = (.ok r,prepared)) ∧
      Handled (ChoiceFate r) (if options.plugins then choices else []) prepared fates site' ∧
      batch = Batch.empty.addAll fates := by
  unfold pluginBatch at ok
  split at ok
  next wanted =>
    rw [Bool.and_eq_true] at wanted
    obtain ⟨r,prepared,recommended,ok⟩ := run_bind_success _ _ _ _ _ ok
    obtain ⟨fates,handled,rfl⟩ :=
      fold_handled _ (ChoiceFate r) (installChoice_handled r) choices .empty batch prepared site' ok
    refine ⟨r,prepared,fates,.inr recommended,?_,rfl⟩
    rw [if_pos wanted.1]
    exact handled
  next unwanted =>
    cases ok
    have empty : (if options.plugins then choices else []) = [] := by
      cases plugins : options.plugins with
      | false => rfl
      | true => simpa [plugins] using unwanted
    rw [empty]
    exact ⟨⟨i.signatures,some i.registry,some i.preferences,none,.standard⟩,site,[],.inl ⟨rfl,rfl⟩,
      .nil site,rfl⟩

theorem imageBatch_handled (images : List Project.AssetFile) (site site' : Site ρ) (batch : Batch)
    (ok : (i.imageBatch options images).run.run site = (.ok batch,site')) :
    ∃ fates, Handled (ImageFate i.media) (if options.assets then images else []) site fates site' ∧
      batch = Batch.empty.addAll fates := by
  unfold imageBatch at ok
  split at ok
  next wanted =>
    rw [if_pos wanted]
    exact fold_handled _ (ImageFate i.media) (i.importImage_handled) images .empty batch site site' ok
  next unwanted =>
    cases ok
    rw [if_neg unwanted]
    exact ⟨[],.nil site,rfl⟩

theorem styleOf_settings (project : Project) (site site' : Site ρ) (style : Option (Style.StyleData × Bool))
    (ok : (i.styleOf user options project).run.run site = (.ok style,site')) :
    Page.settingsOf (style.map (·.1)) = pageSettings options project := by
  unfold styleOf at ok
  split at ok
  next applied =>
    rw [map_eq_pure_bind] at ok
    obtain ⟨⟨data,kept⟩,site₁,made,given⟩ := run_bind_success _ _ _ _ _ ok
    cases given
    obtain ⟨w,applies,_⟩ := SiteWork.ofWork_success _ _ _ _ made
    obtain ⟨data',w₁,extracted,stored⟩ := run_bind_success _ _ _ _ _ applies
    obtain ⟨_,_,_,same⟩ := run_bind_success _ _ _ _ _ stored
    cases same
    have css : data.customCss = String.ofList (Style.clean (Style.combinedCss project)) := by
      cases found : Style.extract project with
      | error fault =>
        rw [found] at extracted
        cases extracted
      | ok data' =>
        rw [found] at extracted
        cases extracted
        obtain ⟨design,_,found⟩ := except_bind_success _ _ _ found
        cases found
        rfl
    simp only [Option.map_some,Page.settingsOf,pageSettings,applied,css,Bool.true_and]
    cases (String.ofList (Style.clean (Style.combinedCss project))).isEmpty <;> rfl
  next unapplied =>
    cases ok
    simp only [Option.map_none,Page.settingsOf,pageSettings,Bool.not_eq_true] at unapplied ⊢
    rw [unapplied]
    rfl

/-- An import that returns has a balanced ledger, whose course gives its report: the pages that were stored,
the plugins that were installed, the number of the images that were taken, and a line for everything that was
refused. Pages and images count once on one side or the other. -/
theorem run_accounts (memory : i.Recall user) (site final : Site ρ) (report : Report)
    (ok : (i.run user choices options).run.run site = (.ok report,final)) :
    ∃ ledger, Balanced memory choices options site final ledger ∧ report = ledger.course.report ∧
      report.pages.length + (lines ledger.course.pages).length = ledger.entry.project.pages.length ∧
      report.assets + (lines ledger.course.images).length =
        (if options.assets then ledger.entry.project.assets.images else []).length ∧
      (report.status = "success" ↔ report.errors = []) := by
  obtain ⟨trace,traced,rfl,rfl⟩ := i.run_success user choices options site report final ok
  obtain ⟨r,prepared,chosen,ready,choosing,plugins⟩ := i.pluginBatch_handled choices options _ _ _ traced.installs
  obtain ⟨after,storing,complete,published⟩ := i.publishPages_success _ _ _ _ _ traced.publishes
  rw [i.styleOf_settings user options _ _ _ _ traced.styles] at storing
  obtain ⟨taken,taking,images⟩ := i.imageBatch_handled options _ _ _ _ traced.imports
  have lasts : memory.Lasts after.1 trace.final := fun id old held =>
    memory.clearing trace.imported _ trace.cleared id old traced.clears
      (imageFates_last memory _ _ _ _ (published ▸ taking) id old (memory.drawing after.1 after.2 id old held))
  obtain ⟨stored,pages,progress,_⟩ := publish_handled memory _ _ _ _ _ trace.final storing complete lasts
  refine ⟨⟨trace.entry,⟨chosen,(trace.style.map (·.2)).getD false,stored,taken⟩,r,trace.saved,prepared,
    trace.installed,trace.styled,after,trace.imported⟩,⟨⟨trace.asked,traced.asks,traced.saves⟩,ready,choosing,
    ⟨trace.style,traced.styles⟩,pages,published ▸ taking,traced.clears,?_⟩,?_,?_,?_,?_⟩
  · exact i.cache.get_absent user _ (i.cache.delete_forgets user _ _ traced.clears)
  · simp [Trace.report,batchReport,plugins,images,progress,Course.report,Batch.addAll,Batch.empty,progressOf]
  · simpa [Trace.report,batchReport,progress,progressOf] using pages.counts (PageFate.busy i.store _ _)
  · simpa [Trace.report,batchReport,images,Batch.addAll,Batch.empty] using taking.counts (ImageFate.busy i.media)
  · generalize trace.report = report
    cases errors : report.errors <;> simp [Report.status,Report.isSuccess,errors]

section Gallery

open FileTree
open Host.RegistryFile (rootRegistry)
open Cache (rootStore)

def homePage : Project.SourceFile := ⟨.str "Home",.str "Home.tsx",.str "Home.tsx",.str "<p>x</p>",8⟩

def logoImage : Project.AssetFile :=
  ⟨.str "logo.png",.str "/cache/assets/alice/0000-logo.png",3,.str "png",.str ""⟩

def goneImage : Project.AssetFile := ⟨.str "gone.png",.str "/tmp/gone.png",3,.str "png",.str ""⟩

/-- An analysis with one page and two images, of which one has no file any more. -/
def galleryEntry : Cache.Entry where
  user := .str "alice"
  created := .float 0.0
  project := {
    name := .str "Gallery", description := .str "",
    pages := [homePage], components := [],
    manifest := .empty,
    assets := { Project.Assets.none with images :=
      [logoImage,goneImage] },
    build := .unknown, details := .empty, root := none }
  detections := []

def galleryTree : FileTree :=
  ⟨[(["cache"],.directory),(["cache","assets"],.directory),(["cache","assets","alice"],.directory),
    (["cache","assets","alice","0000-logo.png"],.file (.ofText "png")),
    (["cache","alice.json"],.file (.document (.json .spaced) galleryEntry.toValue))],[]⟩

def gallerySite : Site Unit :=
  ⟨{ Workspace.start galleryTree [] ⟨1,["tmp"]⟩ 0.0 with settings := some ⟨[],none,none⟩ },()⟩

theorem galleryEntry_read : Cache.Entry.read galleryEntry.toValue = .ok galleryEntry :=
  Cache.Entry.read_toValue _ _ _ _ ⟨rfl,nofun⟩ nofun

theorem gallerySite_cached : (rootImporter.cache.get "alice").run.run gallerySite.workspace =
    (.ok (some galleryEntry),gallerySite.workspace) := by
  have read : galleryTree.read (rootStore.fileOf "alice") =
      .ok (.document (.json .spaced) galleryEntry.toValue) := by
    simp only [FileTree.read,locate_chars]
    rfl
  have found : Cache.Store.readEntry galleryTree (rootStore.fileOf "alice") = .ok galleryEntry := by
    unfold Cache.Store.readEntry
    rw [read]
    exact galleryEntry_read
  show (rootStore.get "alice").run.run gallerySite.workspace = _
  rw [rootStore.get_read "alice" _ _ read,show gallerySite.workspace.files = galleryTree from rfl,found]
  rfl

def publishedTree (v : Value) : FileTree :=
  { galleryTree with entries := galleryTree.entries ++ [(["documents"],.directory),
    (["documents","1.json"],.file (.document (.json (.indented 2)) v))] }

def takenTree (v : Value) : FileTree :=
  { galleryTree with entries := (publishedTree v).entries ++ [(["media"],.directory),
    (["media","1-logo.png"],.file (.ofText "png"))] }

/-- The site of the gallery with other files, after drawing ids. -/
def galleryWith (files : FileTree) (drawnIds : Nat) : Site Unit :=
  ⟨{ gallerySite.workspace with files, drawnIds },()⟩

theorem gallery_created (document : NewDocument) : rootImporter.store.create document gallerySite =
    (.ok "1",galleryWith (publishedTree ((DocumentDirectory.below ⟨1,[]⟩ "").stored document)) 0) := by
  have created : (DocumentDirectory.below ⟨1,[]⟩ "").create document galleryTree =
      (.ok "1",publishedTree ((DocumentDirectory.below ⟨1,[]⟩ "").stored document)) := by
    simp only [DocumentDirectory.create,DocumentDirectory.write,DocumentDirectory.nextId,makeDirectories,
      makeDirectoriesWithin,makeDirectory,childrenEnding,children,isDirectory,look,FileTree.write,locate_chars]
    rfl
  show ((DocumentDirectory.below ⟨1,[]⟩ "").onSite Unit).create document gallerySite = _
  rw [DocumentDirectory.onSite_create,show gallerySite.files = galleryTree from rfl,created]
  rfl

theorem gallery_taken (v : Value) (n : Nat) : rootImporter.media.add
    ⟨1,["cache","assets","alice","0000-logo.png"]⟩ logoImage.name (galleryWith (publishedTree v) n) =
      (.ok "1",galleryWith (takenTree v) n) := by
  have added : (MediaDirectory.below ⟨1,[]⟩).add ⟨1,["cache","assets","alice","0000-logo.png"]⟩
      (.str "logo.png") (publishedTree v) = (.ok "1",takenTree v) := by
    simp only [MediaDirectory.add,MediaDirectory.copy,MediaDirectory.nextId,makeDirectories,
      makeDirectoriesWithin,makeDirectory,children,isFile,look,FileTree.write,FileTree.read,FileTree.copy,
      locate_chars]
    rfl
  show ((MediaDirectory.below ⟨1,[]⟩).onSite Unit).add _ (.str "logo.png") _ = _
  rw [MediaDirectory.onSite_add,show (galleryWith (publishedTree v) n).files = publishedTree v from rfl,added]
  rfl

theorem gallery_gone (v : Value) (n : Nat) : rootImporter.media.add ⟨1,["tmp","gone.png"]⟩ goneImage.name
    (galleryWith (takenTree v) n) = (.error (.collaborator "Media file not found: /tmp/gone.png"
      "directory" none []),galleryWith (takenTree v) n) := by
  have missing : (takenTree v).isFile ⟨1,["tmp","gone.png"]⟩ = .ok false := by
    simp only [isFile,look,locate_chars]
    rfl
  have refused : (MediaDirectory.below ⟨1,[]⟩).add ⟨1,["tmp","gone.png"]⟩ goneImage.name (takenTree v) =
      (.error (.collaborator "Media file not found: /tmp/gone.png" "directory" none []),takenTree v) := by
    unfold MediaDirectory.add
    rw [missing]
    rfl
  show ((MediaDirectory.below ⟨1,[]⟩).onSite Unit).add _ _ _ = _
  rw [MediaDirectory.onSite_add,show (galleryWith (takenTree v) n).files = takenTree v from rfl,refused]
  rfl

/-- The workspace of the gallery once the cached analysis is gone. -/
def galleryLeft (v : Value) (n : Nat) : Workspace :=
  { (galleryWith (takenTree v) n).workspace with
    files := ((takenTree v).removeWhere (· == ["cache","alice.json"])).removeTree (rootStore.imagesOf "alice") }

theorem gallery_deleted (v : Value) (n : Nat) :
    (rootImporter.cache.delete "alice").run.run (galleryWith (takenTree v) n).workspace =
      (.ok (),galleryLeft v n) := by
  have located : (takenTree v).locate (rootStore.fileOf "alice") = .ok ["cache","alice.json"] := by
    simp only [locate_chars]
    rfl
  have unlinked := unlink_file (takenTree v) _ _ _ located rfl
  show (rootStore.delete "alice").run.run (galleryWith (takenTree v) n).workspace = _
  unfold Cache.Store.delete Work.change
  rw [run_bind,run_bind,Work.ask_run,show (galleryWith (takenTree v) n).workspace.files = takenTree v from rfl,
    unlinked]
  rfl

def skipped : Table String := [("forms","skip")]

theorem gallery_styled : (rootImporter.styleOf "alice" .standard galleryEntry.project).run.run gallerySite =
    (.ok (some (.empty,false)),gallerySite) := rfl

theorem gallery_installed : (rootImporter.pluginBatch skipped .standard).run.run gallerySite =
    (.ok .empty,gallerySite) := by
  have override : Settings.proOverride.run.run gallerySite.workspace = (.ok none,gallerySite.workspace) :=
    Settings.proOverride_again gallerySite.workspace ⟨[],none,none⟩ rfl
  have recommended : (SiteWork.ofWork rootImporter.recommender).run.run gallerySite =
      (.ok ⟨[],some (rootRegistry.onSite Unit),some rootImporter.preferences,none,.standard⟩,gallerySite) := by
    rw [SiteWork.ofWork_run]
    unfold recommender
    rw [run_bind,override]
    rfl
  unfold pluginBatch installChoices
  rw [if_pos (by decide),run_bind,recommended]
  dsimp only [skipped]
  rw [List.foldlM_cons,run_bind,skipped_run _ _ _ _ rfl]
  rfl

/-- The import of the gallery returns: its page is stored, and one of its images is taken. -/
theorem gallery_run : ∃ report final,
    (rootImporter.run "alice" skipped .standard).run.run gallerySite = (.ok report,final) ∧
      report.pages.length = 1 ∧ report.assets = 1 ∧ report.errors.length = 1 := by
  obtain ⟨tree,translated⟩ : ∃ tree, (Page.translate "<p>x</p>".toList).run.run 0 = (.ok tree,3) := ⟨_,rfl⟩
  let stored := (DocumentDirectory.below ⟨1,[]⟩ "").stored (documentOf [] homePage tree)
  let progress : Page.Progress := ⟨[⟨.str "Home","1",tree.length⟩],[],none⟩
  let batch : Batch := ⟨["1"],["Failed to import asset gone.png: Media file not found: /tmp/gone.png"]⟩
  have published : (rootImporter.publishPages (some .empty) galleryEntry.project.pages).run.run gallerySite =
      (.ok progress,galleryWith (publishedTree stored) 3) := by
    have page := publishPage_run rootImporter.store [] homePage gallerySite 0 3 _ tree rfl translated
    rw [gallery_created] at page
    refine publishPages_run rootImporter _ _ _ progress (galleryWith (publishedTree stored) 0,3) ?_
    show Page.publish rootImporter.store [] "draft" true [homePage] (gallerySite,0) = _
    rw [publish_step,page]
    rfl
  have logo := importImage_run rootImporter .empty logoImage _ _ _
    (.taken _ _ _ _ rfl (gallery_taken stored 3))
  have gone := fun batch => importImage_run rootImporter batch goneImage _ _ _
    (.refused _ _ _ _ rfl (gallery_gone stored 3) rfl)
  have imported : (rootImporter.imageBatch .standard galleryEntry.project.assets.images).run.run
      (galleryWith (publishedTree stored) 3) =
      (.ok batch,galleryWith (takenTree stored) 3) := by
    show (List.foldlM rootImporter.importImage _ [logoImage,goneImage]).run.run _ = _
    rw [List.foldlM_cons,run_bind,logo]
    dsimp only
    rw [List.foldlM_cons,run_bind,gone]
    rfl
  let trace : Trace Unit := ⟨galleryEntry,gallerySite.workspace,gallerySite,.empty,gallerySite,some (.empty,false),
    gallerySite,progress,galleryWith (publishedTree stored) 3,batch,galleryWith (takenTree stored) 3,
    galleryLeft stored 3⟩
  have traced : rootImporter.Traced "alice" skipped .standard gallerySite trace :=
    ⟨gallerySite_cached,rfl,gallery_installed,gallery_styled,published,imported,gallery_deleted stored 3⟩
  exact ⟨trace.report,trace.final,rootImporter.run_traced _ _ _ _ trace traced,rfl,rfl,rfl⟩

def galleryRecall : rootImporter.Recall "alice" :=
  rootImporter.fileRecall "alice" ⟨1,[]⟩ "" rfl rfl (by decide)

/-- The gallery's import has a balanced ledger, with one image on either side. -/
theorem accounts_gallery : ∃ report final ledger,
    (rootImporter.run "alice" skipped .standard).run.run gallerySite = (.ok report,final) ∧
      Balanced galleryRecall skipped .standard gallerySite final ledger ∧ report = ledger.course.report ∧
      report.pages.length = 1 ∧ report.assets = 1 ∧ (lines ledger.course.images).length = 1 ∧
      ¬report.status = "success" := by
  obtain ⟨report,final,ok,pages,assets,errors⟩ := gallery_run
  obtain ⟨ledger,balanced,same,_,images,success⟩ :=
    rootImporter.run_accounts "alice" skipped .standard galleryRecall gallerySite final report ok
  have entry : ledger.entry = galleryEntry := by
    obtain ⟨w,cached,_⟩ := balanced.opened
    rw [gallerySite_cached] at cached
    exact (Option.some.inj (Except.ok.inj (Prod.mk.inj cached).1)).symm
  refine ⟨report,final,ledger,ok,balanced,same,pages,assets,?_,fun succeeded => ?_⟩
  · rw [assets,entry] at images
    exact Nat.add_left_cancel images
  · rw [success.mp succeeded] at errors
    cases errors

end Gallery

end Importer

end Pagewright.Import
