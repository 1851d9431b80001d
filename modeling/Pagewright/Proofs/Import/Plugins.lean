import Pagewright.Import.Importer
import Pagewright.Proofs.Registry.Settling
import Pagewright.Proofs.Work

/-! Installing and activating one slug on a site with a registry file. -/
namespace Pagewright.Detection.Recommender
open Host (RegistryFile Site SiteWork PluginRegistry)

variable {ρ : Type} (file : RegistryFile) (r : Recommender ρ) (slug : String) (site : Site ρ)

/-- Slugs for which the registry is asked: all but those of the page builder. -/
structure Ordinary (slug : String) : Prop where
  notNative : nativeSlugs.contains slug = false
  notPro : (slug == proSlug) = false

theorem isActive_native (native : nativeSlugs.contains slug = true) : r.isActive slug site = .ok true :=
  if_pos native

theorem isInstalled_native (native : nativeSlugs.contains slug = true) : r.isInstalled slug site = .ok true :=
  if_pos native

theorem isActive_fixed (fixed : r.proOverride = some true) : r.isActive proSlug site = .ok true := by
  unfold isActive isProActive
  rw [fixed]
  rfl

theorem isInstalled_fixed (fixed : r.proOverride = some true) : r.isInstalled proSlug site = .ok true := by
  unfold isInstalled isProDefined
  rw [fixed]
  rfl

/-- A slug is native, or the fixed pro tier, or one for which the registry is asked. -/
theorem slug_cases (kept : slug = proSlug → r.proOverride = some true) :
    (∀ site : Site ρ, r.isInstalled slug site = .ok true ∧ r.isActive slug site = .ok true) ∨
      Ordinary slug := by
  by_cases native : nativeSlugs.contains slug = true
  · exact Or.inl fun site => ⟨r.isInstalled_native slug site native,r.isActive_native slug site native⟩
  · by_cases pro : slug = proSlug
    · left
      intro site
      rw [pro]
      exact ⟨r.isInstalled_fixed site (kept pro),r.isActive_fixed site (kept pro)⟩
    · exact Or.inr ⟨by simpa using native,beq_false_of_ne pro⟩

theorem registryStep_run (registry : PluginRegistry (Site ρ))
    (operation : Site ρ → Except Failure Unit × Site ρ) : (registryStep registry operation).run.run site =
      ((operation site).1.mapError (reportedBy registry.name),(operation site).2) :=
  SiteWork.step_run site _

/-- What a step of the registry file leaves of the site. -/
def stepped (change : Except Failure FileTree) : Except Failure Unit × Site ρ :=
  match change with
  | .ok files => (.ok (),site.withFiles files)
  | .error failure => (.error (reportedBy "file" failure),site)

theorem stepped_success (change : Except Failure FileTree) (site' : Site ρ)
    (ok : stepped site change = (.ok (),site')) : ∃ files, change = .ok files ∧ site' = site.withFiles files := by
  cases change with
  | error failure => cases ok
  | ok files => cases ok; exact ⟨files,rfl,rfl⟩

theorem step_stepped (change : FileTree → Except Failure FileTree) :
    (registryStep (file.onSite ρ) fun site =>
      let (result,files) := RegistryFile.step change site.files
      (result,site.withFiles files)).run.run site = stepped site (change site.files) := by
  rw [registryStep_run]
  unfold RegistryFile.step stepped
  cases change site.files <;> rfl

variable (registered : r.registry = some (file.onSite ρ))
include registered

theorem isInstalled_file (ordinary : Ordinary slug) :
    r.isInstalled slug site = file.isInstalled slug site.files := by
  unfold isInstalled askRegistry
  rw [ordinary.notNative,ordinary.notPro,registered]
  rfl

theorem isActive_file (ordinary : Ordinary slug) :
    r.isActive slug site = file.isActive slug site.files := by
  unfold isActive askRegistry
  rw [ordinary.notNative,ordinary.notPro,registered]
  rfl

theorem requireRegistry_file : r.requireRegistry slug = .ok (file.onSite ρ) := by
  unfold requireRegistry
  rw [registered]

theorem install_run (notNative : nativeSlugs.contains slug = false) : (r.install slug).run.run site =
    match r.isInstalled slug site with
    | .error failure => (.error failure,site)
    | .ok true => (.ok (),site)
    | .ok false => stepped site (file.installed slug site.files) := by
  unfold install
  rw [notNative,if_neg nofun,run_bind,SiteWork.ask_run]
  rcases r.isInstalled slug site with failure | there
  · rfl
  · cases there with
    | true => rfl
    | false =>
      dsimp only
      rw [if_neg nofun,run_bind,SiteWork.ask_run,r.requireRegistry_file file slug registered]
      exact step_stepped file site (file.installed slug)

theorem activate_run (notNative : nativeSlugs.contains slug = false) : (r.activate slug).run.run site =
    match r.isActive slug site with
    | .error failure => (.error failure,site)
    | .ok true => (.ok (),site)
    | .ok false => match file.isInstalled slug site.files with
      | .error failure => (.error failure,site)
      | .ok false => (.error (.collaborator "Plugin file not found" "file" none [("slug",.str slug)]),site)
      | .ok true => stepped site (file.activated slug site.files) := by
  unfold activate
  rw [notNative,if_neg nofun,run_bind,SiteWork.ask_run]
  rcases r.isActive slug site with failure | active
  · rfl
  · cases active with
    | true => rfl
    | false =>
      dsimp only
      rw [if_neg nofun,run_bind,SiteWork.ask_run,r.requireRegistry_file file slug registered]
      dsimp only
      rw [run_bind,SiteWork.ask_run]
      have asked : (file.onSite ρ).isInstalled slug site = file.isInstalled slug site.files := rfl
      rw [asked]
      rcases file.isInstalled slug site.files with failure | there
      · rfl
      · cases there with
        | false => rfl
        | true => exact step_stepped file site (file.activated slug)

section Promises

variable (kept : slug = proSlug → r.proOverride = some true) (site' : Site ρ)
include kept

/-- A slug whose installation goes through is installed. -/
theorem install_promise (ok : (r.install slug).run.run site = (.ok (),site')) :
    r.isInstalled slug site' = .ok true := by
  rcases r.slug_cases slug kept with always | ordinary
  · exact (always site').1
  · rw [r.install_run file slug site registered ordinary.notNative] at ok
    cases answer : r.isInstalled slug site with
    | error failure => rw [answer] at ok; cases ok
    | ok there =>
      rw [answer] at ok
      cases there with
      | true => cases ok; exact answer
      | false =>
        obtain ⟨files,change,rfl⟩ := stepped_success site _ site' ok
        rw [r.isInstalled_file file slug _ registered ordinary]
        exact (file.install_step RegistryFile.AnyState slug _ files trivial change).2

/-- A slug whose activation goes through is active. -/
theorem activate_promise (ok : (r.activate slug).run.run site = (.ok (),site')) :
    r.isActive slug site' = .ok true := by
  rcases r.slug_cases slug kept with always | ordinary
  · exact (always site').2
  · rw [r.activate_run file slug site registered ordinary.notNative] at ok
    cases answer : r.isActive slug site with
    | error failure => rw [answer] at ok; cases ok
    | ok active =>
      rw [answer] at ok
      cases active with
      | true => cases ok; exact answer
      | false =>
        dsimp only at ok
        split at ok
        · cases ok
        · cases ok
        · obtain ⟨files,change,rfl⟩ := stepped_success site _ site' ok
          rw [r.isActive_file file slug _ registered ordinary]
          exact (file.activate_step RegistryFile.AnyState slug _ files change).2

end Promises

end Pagewright.Detection.Recommender
