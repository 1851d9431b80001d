import Pagewright.Proofs.Import.Choices
import Pagewright.Proofs.Registry.SlugSet
import Pagewright.Proofs.Settings

/-! What a recommender promises of slugs that it has handled. It tells the state of the pro tier from the
section of its own, or as the settings fix it, but installs it as every other plugin: so nothing is
promised of the pro tier unless it is fixed to be there. -/
namespace Pagewright.Import
open Detection (Recommender proSlug)
open Host (RegistryFile Site SiteWork)
open Host.RegistryFile (rootRegistry)

theorem Importer.recommender_success {ρ : Type} (i : Importer ρ) (w w' : Workspace) (r : Recommender ρ)
    (ok : i.recommender.run.run w = (.ok r,w')) : r.registry = some i.registry ∧
      ∃ now, w'.settings = some now ∧
        ∀ later : Workspace, later.settings = some now → i.recommender.run.run later = (.ok r,later) := by
  obtain ⟨override,w₁,read,ok⟩ := run_bind_success _ _ _ _ _ ok
  cases ok
  obtain ⟨now,remembered,rfl⟩ := Settings.proOverride_remembers w w' override read
  refine ⟨rfl,now,remembered,fun later known => ?_⟩
  unfold recommender
  rw [run_bind,Settings.proOverride_again later now known]
  rfl

/-- What is promised of slugs while the state of the pro tier is fixed in a way or not: a slug whose
installation goes through is installed, one whose activation goes through is active, and of choices that
come to an end, those that succeeded are active; made again, they find nothing to install and fail at
most where they failed before. -/
structure KeepsPromise (override : Option Bool) (slugs : String → Prop) : Prop where
  installs : ∀ (ρ : Type) (file : RegistryFile) (r : Recommender ρ) (slug : String) (site site' : Site ρ),
    r.registry = some (file.onSite ρ) → r.proOverride = override → slugs slug →
      (r.install slug).run.run site = (.ok (),site') → r.isInstalled slug site' = .ok true
  activates : ∀ (ρ : Type) (file : RegistryFile) (r : Recommender ρ) (slug : String) (site site' : Site ρ),
    r.registry = some (file.onSite ρ) → r.proOverride = override → slugs slug →
      (r.activate slug).run.run site = (.ok (),site') → r.isActive slug site' = .ok true
  choices : ∀ (ρ : Type) (file : RegistryFile) (i : Importer ρ) (r : Recommender ρ) (choices : Table String)
    (site site' : Site ρ) (w : Workspace) (batch : Batch), i.registry = file.onSite ρ →
      i.recommender.run.run site.workspace = (.ok r,w) → r.proOverride = override →
      (∀ choice ∈ choices, slugs choice.2) → (i.installChoices choices).run.run site = (.ok batch,site') →
        i.recommender.run.run site'.workspace = (.ok r,site'.workspace) ∧
        (∀ slug ∈ batch.succeeded, r.isActive slug site' = .ok true) ∧
        ∃ lines, lines.Sublist batch.errors ∧
          (i.installChoices choices).run.run site' = (.ok ⟨[],lines⟩,site')

section Importing

variable {ρ : Type} (i : Importer ρ) (choices : Table String) (r : Recommender ρ)

theorem Importer.installChoices_run (site : Site ρ) (w : Workspace)
    (made : i.recommender.run.run site.workspace = (.ok r,w)) : (i.installChoices choices).run.run site =
      (choices.foldlM (installChoice r) .empty).run.run { site with workspace := w } := by
  unfold installChoices
  rw [run_bind,SiteWork.ofWork_run,made]

/-- The promise about choices, where the pro tier is none of them or fixed to be there. -/
theorem Importer.choices_promise (file : RegistryFile) (site site' : Site ρ) (w : Workspace) (batch : Batch)
    (registered : i.registry = file.onSite ρ) (made : i.recommender.run.run site.workspace = (.ok r,w))
    (kept : ∀ choice ∈ choices, choice.2 = proSlug → r.proOverride = some true)
    (ok : (i.installChoices choices).run.run site = (.ok batch,site')) :
    i.recommender.run.run site'.workspace = (.ok r,site'.workspace) ∧
      (∀ slug ∈ batch.succeeded, r.isActive slug site' = .ok true) ∧
      ∃ lines, lines.Sublist batch.errors ∧
        (i.installChoices choices).run.run site' = (.ok ⟨[],lines⟩,site') := by
  obtain ⟨registry,now,remembered,again⟩ := i.recommender_success site.workspace w r made
  rw [i.installChoices_run choices r site w made] at ok
  have settled := choices_settled file r (by rw [registry,registered]) choices kept _ _ _ _ ok
  obtain ⟨added,lines,rfl,active,repeats⟩ := settled.report
  have known : site'.workspace.settings = some now := by
    rw [settled.place]
    exact remembered
  have made' := again site'.workspace known
  obtain ⟨rest,fewer,run⟩ := repeats site' (file.settles_refl _)
  refine ⟨made',fun slug member => active slug (by simpa [Batch.empty] using member) site'
    (file.settles_refl _),rest,by simpa [Batch.empty] using fewer,?_⟩
  rw [i.installChoices_run choices r site' _ made']
  exact run .empty

end Importing

theorem keepsPromise_of_fixed (override : Option Bool) (slugs : String → Prop)
    (fixed : slugs proSlug → override = some true) : KeepsPromise override slugs where
  installs _ file r slug site site' registered same known ok :=
    r.install_promise file slug site registered (fun pro => same.trans (fixed (pro ▸ known))) site' ok
  activates _ file r slug site site' registered same known ok :=
    r.activate_promise file slug site registered (fun pro => same.trans (fixed (pro ▸ known))) site' ok
  choices _ file i r choices site site' w batch registered made same known ok :=
    i.choices_promise choices r file site site' w batch registered made
      (fun choice member pro => same.trans (fixed (pro ▸ known choice member))) ok

/-- A site without files. -/
def emptySite : Site Unit := ⟨.start .empty [] ⟨1,["tmp"]⟩ 0.0,()⟩

/-- A recommender for the registry in the root directory. -/
def rootRecommender (override : Option Bool) : Recommender Unit :=
  ⟨[],some (rootRegistry.onSite Unit),none,override,.standard⟩

section Pro

variable (override : Option Bool) (free : override ≠ some true) (site : Site Unit) (data : Table Value)
  (loaded : rootRegistry.load site.files = .ok data)
  (bare : RegistryFile.sectionOf data "pro" = RegistryFile.noPro)
include free loaded bare

/-- Where the registry tells of no pro tier, there is none unless it is fixed to be there. -/
theorem no_pro : (rootRecommender override).isInstalled proSlug site = .ok false ∧
    (rootRecommender override).isActive proSlug site = .ok false := by
  have defined : rootRegistry.proDefined site.files = .ok false := by
    simp only [RegistryFile.proDefined,loaded,bind,Except.bind,bare]
    rfl
  have active : rootRegistry.proActive site.files = .ok false := by
    simp only [RegistryFile.proActive,loaded,bind,Except.bind,bare]
    rfl
  match override,free with
  | none,_ => exact ⟨defined,active⟩
  | some false,_ => exact ⟨defined,rfl⟩

end Pro

/-- The pro tier is installed and activated as a plugin, and still it is said not to be there. -/
theorem pro_in_vain (override : Option Bool) (free : override ≠ some true) : ∃ installed activated : Site Unit,
    ((rootRecommender override).install proSlug).run.run emptySite = (.ok (),installed) ∧
      (rootRecommender override).isInstalled proSlug installed = .ok false ∧
      ((rootRecommender override).activate proSlug).run.run installed = (.ok (),activated) ∧
      (rootRecommender override).isActive proSlug activated = .ok false := by
  have loaded := Host.RegistryFile.rootRegistry_load .empty rfl
  have missing : rootRegistry.isInstalled proSlug .empty = .ok false :=
    rootRegistry.isInstalled_loaded proSlug .empty _ none loaded rfl
  obtain ⟨files,done,loaded'⟩ := Host.RegistryFile.rootRegistry_installed proSlug
  obtain ⟨_,there,files',done',_⟩ := rootRegistry.installed_then_activated proSlug .empty files missing done
  obtain ⟨data,loaded'',grown⟩ := (rootRegistry.activate_step RegistryFile.AnyState proSlug files files' done').1
    _ loaded'
  have before := no_pro override free emptySite _ loaded rfl
  have between := no_pro override free (emptySite.withFiles files) _ loaded' rfl
  have after := no_pro override free (emptySite.withFiles files') _ loaded'' grown.pro
  refine ⟨emptySite.withFiles files,emptySite.withFiles files',?_,between.1,?_,after.2⟩
  · rw [(rootRecommender override).install_run rootRegistry proSlug emptySite rfl (by decide),before.1]
    have same : emptySite.files = .empty := rfl
    dsimp only
    rw [same,done]
    rfl
  · rw [(rootRecommender override).activate_run rootRegistry proSlug _ rfl (by decide),between.2]
    have same : (emptySite.withFiles files).files = files := rfl
    dsimp only
    rw [same,there]
    dsimp only
    rw [done']
    rfl

theorem fixed_of_keepsPromise (override : Option Bool) (slugs : String → Prop)
    (keeps : KeepsPromise override slugs) (known : slugs proSlug) : override = some true := by
  by_contra free
  obtain ⟨installed,_,ok,absent,_⟩ := pro_in_vain override free
  have there := keeps.installs Unit rootRegistry (rootRecommender override) proSlug emptySite installed rfl rfl
    known ok
  rw [absent] at there
  cases there

end Pagewright.Import
