import Pagewright.Proofs.Cache.Trespass
import Pagewright.Proofs.Import.Asking
import Pagewright.Proofs.Import.Pages
import Pagewright.Proofs.Import.Promises

/-! Imports go on where their items fail. Only a registry that cannot be read holds them up in words of
its own, where a choice has it asked whether its plugin is active. -/
namespace Pagewright.Import
open Detection (Recommender)
open Host (RegistryFile Site SiteWork)
open Host.RegistryFile (rootRegistry)
open Cache (rootStore plainEntry)

namespace Importer

variable {ρ : Type} (i : Importer ρ) (user : String) (choices : Table String) (options : Options)

/-- An import is fail-soft: it does not end with a failure that is reported in words of its own, and where
nothing but its items can fail, it ends with the report that accounts for all of them. -/
structure FailSoft (site : Site ρ) : Prop where
  silent : ∀ failure site', (i.run user choices options).run.run site = (.error failure,site') →
    failure.isReported = false
  complete : ∀ course site', (i.course user choices options).run.run site = (.ok course,site') →
    (i.run user choices options).run.run site = (.ok course.report,site')

/-- What an import does before its first batch. -/
def opening : SiteWork ρ (Recommender ρ) := do
  let _ ← SiteWork.ofWork (i.cache.get user)
  i.saveChoices choices options
  SiteWork.ofWork i.recommender

/-- The registry cannot be read when the plugins are installed, and one of the choices has it asked. -/
def Blocked (file : RegistryFile) (site : Site ρ) : Prop :=
  options.plugins = true ∧ ∃ r site', (i.opening user choices options).run.run site = (.ok r,site') ∧
    (∃ choice ∈ choices, AsksFor r choice) ∧ file.Unreadable site'.files

section Batches

variable (file : RegistryFile) (registered : i.registry = file.onSite ρ) (site : Site ρ)
include registered

theorem recommended_registry (r : Recommender ρ) (site' : Site ρ)
    (made : (SiteWork.ofWork i.recommender).run.run site = (.ok r,site')) :
    r.registry = some (file.onSite ρ) := by
  obtain ⟨w,recommended,_⟩ := SiteWork.ofWork_success site _ _ _ made
  rw [(i.recommender_success _ _ _ recommended).1,registered]

theorem pluginBatch_follows
    (calm : options.plugins = true → ∀ r site', (SiteWork.ofWork i.recommender).run.run site = (.ok r,site') →
      (∃ choice ∈ choices, AsksFor r choice) → ¬ file.Unreadable site'.files) :
    Follows (i.pluginBatch choices options) (i.tryChoices choices options) Batch.empty.addAll allSound site := by
  unfold pluginBatch tryChoices
  split
  · rename_i wanted
    rw [Bool.and_eq_true] at wanted
    unfold installChoices
    refine follows_step _ _ _ _ _ site (SiteWork.faults_ofWork _ site (i.recommender_faults _)) fun r site' made => ?_
    have registry := i.recommended_registry file registered site r site' made
    exact choices_follow file r registry choices site' (calm wanted.1 r site' made)
  · exact follows_pure Batch.empty.addAll allSound [] site rfl

end Batches

section Runs

variable (file : RegistryFile) (registered : i.registry = file.onSite ρ) (site : Site ρ) (entry : Cache.Entry)
  (w : Workspace) (cached : (i.cache.get user).run.run site.workspace = (.ok (some entry),w))
include registered cached

/-- An import that is not blocked follows its course. -/
theorem run_follows (free : ¬ i.Blocked user choices options file site) :
    Follows (i.run user choices options) (i.course user choices options) Course.report Course.isSound site := by
  rw [run_around]
  unfold course around
  refine follows_step _ _ _ _ _ site ?_ fun found site₁ got => ?_
  · intro failure site' failed
    rw [SiteWork.ofWork_run,cached] at failed
    cases failed
  obtain ⟨w₁,got',rfl⟩ := SiteWork.ofWork_success site _ _ _ got
  rw [cached] at got'
  cases got'
  refine follows_step _ _ _ _ _ _ (i.saveChoices_faults choices options _) fun _ site₂ saved => ?_
  have calm : options.plugins = true → ∀ r site', (SiteWork.ofWork i.recommender).run.run site₂ = (.ok r,site') →
      (∃ choice ∈ choices, AsksFor r choice) → ¬ file.Unreadable site'.files := by
    intro wanted r site' made asked unreadable
    refine free ⟨wanted,r,site',?_,asked,unreadable⟩
    unfold opening
    rw [run_bind,got]
    dsimp only
    rw [run_bind,saved]
    exact made
  -- Each batch follows its fates; one that does not is no part of a sound course, whatever comes after it.
  refine follows_bind _ _ _ _ _ _ _ _ _ (i.pluginBatch_follows choices options file registered site₂ calm)
    (fun plugins site₃ _ pluginsSound => ?_) fun plugins bad => ?_
  · refine follows_step _ _ _ _ _ _ (i.styleOf_faults user options site₃ _) fun style site₄ _ => ?_
    refine follows_bind _ _ _ _ _ _ _ _ _ (i.publishPages_follows _ _ site₄)
      (fun pages site₅ _ pagesSound => ?_) fun pages bad => ?_
    · refine follows_bind _ _ _ _ _ _ _ _ _ (i.imageBatch_follows options _ site₅)
        (fun images site₆ _ imagesSound => ?_) fun images bad => ?_
      · refine follows_step _ _ _ _ _ _ (SiteWork.faults_ofWork _ site₆ (i.cache.delete_faults user _))
          fun _ site₇ _ => ?_
        have sound : (Course.mk plugins ((style.map (·.2)).getD false) pages images).isSound = true := by
          simp [Course.isSound,pluginsSound,pagesSound,imagesSound]
        exact follows_pure Course.report Course.isSound _ site₇ sound
      · refine gives_bind _ _ _ fun _ => gives_pure _ _ ?_
        simp [Course.isSound,bad]
    · refine gives_bind _ _ _ fun images => gives_bind _ _ _ fun _ => gives_pure _ _ ?_
      simp [Course.isSound,bad]
  · refine gives_bind _ _ _ fun style => gives_bind _ _ _ fun pages => gives_bind _ _ _ fun images => ?_
    refine gives_bind _ _ _ fun _ => gives_pure _ _ ?_
    simp [Course.isSound,bad]

/-- A blocked import ends with the refusal of the registry. -/
theorem run_blocked (blocked : i.Blocked user choices options file site) : ∃ cause site',
    (i.run user choices options).run.run site = (.error (file.unreadable cause),site') := by
  obtain ⟨wanted,r,site₃,opened,asked,cause,refused⟩ := blocked
  obtain ⟨found,site₁,got,opened⟩ := run_bind_success _ _ _ _ _ opened
  obtain ⟨_,site₂,saved,made⟩ := run_bind_success _ _ _ _ _ opened
  obtain ⟨w₁,got',rfl⟩ := SiteWork.ofWork_success site _ _ _ got
  rw [cached] at got'
  cases got'
  have registry := i.recommended_registry file registered site₂ r site₃ made
  have chosen : (options.plugins && !choices.isEmpty) = true := by
    obtain ⟨choice,member,_⟩ := asked
    rw [wanted]
    cases choices with
    | nil => cases member
    | cons first rest => rfl
  have ends : (i.pluginBatch choices options).run.run site₂ = (.error (file.unreadable cause),site₃) := by
    unfold pluginBatch
    rw [if_pos chosen]
    unfold installChoices
    rw [run_bind,made]
    exact choices_blocked file r registry choices .empty site₃ cause refused asked
  refine ⟨cause,site₃,?_⟩
  rw [run_around]
  unfold around
  rw [run_bind,got]
  dsimp only
  rw [run_bind,saved]
  dsimp only
  rw [run_bind,ends]

end Runs

end Importer

/-- The analysis of a user, and a registry file that is cut off. -/
def brokenTree : FileTree :=
  ⟨[(["cache"],.directory),
    (["cache","alice.json"],.file (.document (.json .spaced) (plainEntry "alice").toValue)),
    (["plugins.yaml"],.file (.ofText "a: [b"))],[]⟩

def brokenSite : Site Unit :=
  ⟨{ Workspace.start brokenTree [] ⟨1,["tmp"]⟩ 0.0 with settings := some ⟨[],none,none⟩ },()⟩

def rootImporter : Importer Unit where
  data := ⟨1,[]⟩
  registry := rootRegistry.onSite Unit
  store := (Host.DocumentDirectory.below ⟨1,[]⟩ "").onSite Unit
  media := (Host.MediaDirectory.below ⟨1,[]⟩).onSite Unit
  cache := rootStore
  signatures := []
  preferences := .below ⟨1,[]⟩

theorem brokenTree_located : brokenTree.locate (rootStore.fileOf "alice") = .ok ["cache","alice.json"] := by
  have cache : brokenTree.LeadsToDirectory rootStore.directory :=
    ⟨FileTree.locate_child brokenTree ⟨1,[]⟩ "cache" ⟨rfl,rfl⟩ ⟨by decide,by decide,by decide⟩,rfl⟩
  exact rootStore.entry_located "alice" brokenTree cache (by decide)

theorem brokenSite_cached : (rootStore.get "alice").run.run brokenSite.workspace =
    (.ok (some (plainEntry "alice")),brokenSite.workspace) := by
  have found := FileTree.read_standing brokenTree _ _ _ brokenTree_located rfl
  have read : Cache.Store.readEntry brokenTree (rootStore.fileOf "alice") = .ok (plainEntry "alice") := by
    unfold Cache.Store.readEntry
    rw [found]
    exact Cache.read_plainEntry "alice"
  rw [rootStore.get_read "alice" brokenSite.workspace _ found,show brokenSite.workspace.files = brokenTree from rfl,read]
  rfl

theorem brokenSite_unreadable : rootRegistry.Unreadable brokenSite.files :=
  rootRegistry.unreadable_text _ _ _ _ (Host.RegistryFile.rootRegistry_located _) rfl rfl

def formsChoice : Table String := [("forms","jetpack")]

theorem brokenSite_blocked : rootImporter.Blocked "alice" formsChoice .standard rootRegistry brokenSite := by
  have override : Settings.proOverride.run.run brokenSite.workspace = (.ok none,brokenSite.workspace) :=
    Settings.proOverride_again brokenSite.workspace ⟨[],none,none⟩ rfl
  refine ⟨rfl,⟨[],some (rootRegistry.onSite Unit),some rootImporter.preferences,none,.standard⟩,brokenSite,?_,
    ⟨("forms","jetpack"),List.mem_cons_self,rfl,by decide,by decide⟩,brokenSite_unreadable⟩
  unfold Importer.opening
  rw [run_bind,SiteWork.ofWork_run]
  have cached : (rootImporter.cache.get "alice").run.run brokenSite.workspace = _ := brokenSite_cached
  rw [cached]
  dsimp only
  have saved : (rootImporter.saveChoices formsChoice .standard).run.run brokenSite = (.ok (),brokenSite) := rfl
  rw [run_bind,saved]
  dsimp only
  rw [SiteWork.ofWork_run]
  unfold Importer.recommender
  rw [run_bind,override]
  rfl

end Pagewright.Import
