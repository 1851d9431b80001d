import Pagewright.Proofs.Import.Fates

/-! The pages of an import and what it does between its batches. Translating a page fails with faults only, so that
only a refusal of the store is reported, and then the other pages are still stored; the steps between the batches fail
with faults only as well. -/
namespace Pagewright.Page
open Document (Build Node makeSection makeColumn makeWidget newId)
open Host (DocumentStore)

section Translating

variable {α β : Type} (drawn : Nat)

/-- A node made from two results and a new id. -/
theorem node_faults (css : Except Fault α) (settings : α → Except Fault β) (node : α → β → String → Node) :
    FaultsOnly (do
      let made ← liftM css
      let given ← liftM (settings made)
      return node made given (← newId)) drawn := by
  refine faults_bind _ _ _ (faults_lift css drawn) fun made s₁ _ => ?_
  refine faults_bind _ _ _ (faults_lift (settings made) s₁) fun given s₂ _ => ?_
  refine faults_bind _ _ _ (fun _ _ failed => by cases failed) fun id s₃ _ => ?_
  exact faults_pure _ s₃

theorem translateSection_faults (classes inner : List Char) :
    FaultsOnly (translateSection classes inner) drawn := by
  refine faults_bind _ _ _ (node_faults drawn _ _ _) fun sect s₁ _ => ?_
  refine faults_bind _ _ _ (node_faults s₁ _ _ _) fun column s₂ _ => ?_
  refine faults_bind _ _ _ (faults_mapM _ _ (fun plan s => node_faults s _ _ _) s₂) fun widgets s₃ _ => ?_
  refine faults_bind _ _ _ (faults_foldlM _ _ (fun column widget s => faults_lift _ s) column s₃) fun column s₄ _ => ?_
  exact faults_lift _ s₄

theorem translate_faults (content : List Char) : FaultsOnly (translate content) drawn := by
  refine faults_bind _ _ _ (faults_mapM _ _ (fun part s => translateSection_faults s _ _) drawn) fun tree s₁ _ => ?_
  exact faults_bind _ _ _ (faults_lift _ s₁) fun _ s₂ _ => faults_pure _ s₂

end Translating

variable {σ : Type} (store : DocumentStore σ) (settings : Table Value)

theorem ofBuild_run {α : Type} (b : Build α) (state : σ) (drawn : Nat) :
    (Storing.ofBuild b).run.run (state,drawn) = ((b.run.run drawn).1,(state,(b.run.run drawn).2)) := by
  unfold Storing.ofBuild
  rw [run_bind,run_get]
  dsimp only
  have same : b.run drawn = b.run.run drawn := rfl
  rw [same]
  rcases b.run.run drawn with ⟨_ | _,_⟩ <;> rfl

theorem ofBuild_faults {α : Type} (b : Build α) (s : σ × Nat) (inner : FaultsOnly b s.2) :
    FaultsOnly (Storing.ofBuild (σ := σ) b) s := by
  intro failure s' failed
  rw [ofBuild_run] at failed
  exact inner failure _ (Prod.ext (congrArg (fun ran : Except Failure α × (σ × Nat) => ran.1) failed) rfl)

theorem publishPage_faults (status : String) (page : Project.SourceFile) (s : σ × Nat) :
    FaultsOnly (publishPage store settings status page) s := by
  refine faults_bind _ _ _ (ofBuild_faults _ s ?_) fun tree s₁ _ => ?_
  · exact faults_bind _ _ _ (faults_lift _ _) fun source s₁ _ => translate_faults s₁ source
  · refine faults_bind _ _ _ (fun _ _ failed => by cases failed) fun result s₂ _ => faults_pure _ s₂

end Pagewright.Page

namespace Pagewright.Import.Importer
open Host (DocumentStore Site SiteWork)

section Storing

variable {σ : Type} (store : DocumentStore σ) (settings : Table Value)

theorem pageWork_run (page : Project.SourceFile) (s : σ × Nat) : (pageWork store settings page).run.run s =
    match (Page.publishPage store settings "draft" page).run.run s with
    | (.error failure,s) => (.error failure,s)
    | (.ok (.ok published),s) => (.ok (some published),s)
    | (.ok (.error failure),s) => (.error failure,s) := by
  unfold pageWork
  rw [run_bind]
  rcases (Page.publishPage store settings "draft" page).run.run s with ⟨_ | _ | _,_⟩ <;> rfl

/-- What stands before the progress of the pages after one. -/
def before (fate : Fate Page.Published) (later : Page.Progress) : Page.Progress :=
  { later with published := fate.value?.toList ++ later.published, refused := fate.line?.toList ++ later.refused }

theorem publish_step (page : Project.SourceFile) (pages : List Project.SourceFile) (s : σ × Nat) :
    Page.publish store settings "draft" true (page :: pages) s =
      match (Page.publishPage store settings "draft" page).run.run s with
      | (.error failure,s) => (⟨[],[],some failure⟩,s)
      | (.ok (.ok published),s) =>
        let (later,s) := Page.publish store settings "draft" true pages s
        (before (.done published) later,s)
      | (.ok (.error failure),s) =>
        if failure.isReported then
          let (later,s) := Page.publish store settings "draft" true pages s
          (before (.failed (Page.refusalLine page failure) failure) later,s)
        else (⟨[],[],some failure⟩,s) := by
  rw [Page.publish]
  rfl

/-- A page that does not fail with a fault is accounted for, and the next ones follow; a fault ends the
work. -/
theorem publish_cons (page : Project.SourceFile) (pages : List Project.SourceFile) (s s₁ : σ × Nat)
    (fate : Fate Page.Published)
    (tried : (attempt (Page.refusalLine page) (pageWork store settings page)).run.run s = (.ok fate,s₁)) :
    (fate.isSound = true → Page.publish store settings "draft" true (page :: pages) s =
      (before fate (Page.publish store settings "draft" true pages s₁).1,
        (Page.publish store settings "draft" true pages s₁).2)) ∧
    (fate.isSound = false → ∃ failure,
      (Page.publish store settings "draft" true (page :: pages) s).1.failure = some failure ∧
        failure.isReported = false) := by
  have faults := Page.publishPage_faults store settings "draft" page s
  rw [attempt_run,pageWork_run] at tried
  rw [publish_step]
  cases ran : (Page.publishPage store settings "draft" page).run.run s with
  | mk answer s₂ =>
    rw [ran] at tried
    rcases answer with failure | failure | published
    · cases tried
      have unreported := faults failure s₂ ran
      refine ⟨fun good => ?_,fun _ => ⟨failure,rfl,unreported⟩⟩
      cases (show failure.isReported = true from good).symm.trans unreported
    · cases tried
      refine ⟨fun good => if_pos good,fun bad => ⟨failure,?_,bad⟩⟩
      have unreported : failure.isReported = false := bad
      dsimp only
      rw [unreported]
      rfl
    · cases tried
      exact ⟨fun _ => rfl,nofun⟩

/-- Pages that are published beside the fates of their pages: all pages are accounted for, unless one
fails with a fault. -/
theorem publish_fates (pages : List Project.SourceFile) (s : σ × Nat) : ∃ fates s',
    (pages.mapM fun page => attempt (Page.refusalLine page) (pageWork store settings page)).run.run s =
      (.ok fates,s') ∧
    (allSound fates = true → Page.publish store settings "draft" true pages s =
      (⟨values fates,lines fates,none⟩,s')) ∧
    (allSound fates = false → ∃ failure, (Page.publish store settings "draft" true pages s).1.failure =
      some failure ∧ failure.isReported = false) := by
  -- The state is generalized: publishing goes on from what the first page leaves, as its trial does.
  induction pages generalizing s with
  | nil => exact ⟨[],s,rfl,fun _ => rfl,nofun⟩
  | cons page pages ih =>
    have first := attempt_run (Page.refusalLine page) (pageWork store settings page) s
    generalize Fate.of (Page.refusalLine page) ((pageWork store settings page).run.run s).1 = fate at first
    generalize ((pageWork store settings page).run.run s).2 = s₁ at first
    obtain ⟨goes,stops⟩ := publish_cons store settings page pages s s₁ fate first
    obtain ⟨fates,s',rest,follows,stopped⟩ := ih s₁
    refine ⟨fate :: fates,s',by rw [List.mapM_cons,run_bind,first]; dsimp only; rw [run_bind,rest]; rfl,?_,?_⟩
    · intro good
      rw [allSound_cons,Bool.and_eq_true] at good
      rw [goes good.1,follows good.2,values_cons,lines_cons]
      rfl
    · intro bad
      rw [allSound_cons] at bad
      cases kind : fate.isSound with
      | false => exact stops kind
      | true =>
        rw [goes kind]
        exact stopped (by rw [kind] at bad; exact bad)

end Storing

variable {ρ : Type}

/-- A site whose workspace has drawn a number of ids. -/
def drawn (ran : Site ρ × Nat) : Site ρ :=
  { ran.1 with workspace := { ran.1.workspace with drawnIds := ran.2 } }

theorem storing_run {α : Type} (work : Page.Storing (Site ρ) α) (site : Site ρ) :
    (storing work).run.run site = ((work.run.run (site,site.workspace.drawnIds)).1,
      drawn (work.run.run (site,site.workspace.drawnIds)).2) := by
  unfold storing
  rw [run_bind,run_get]
  dsimp only
  rcases work.run.run (site,site.workspace.drawnIds) with ⟨_ | _,_,_⟩ <;> rfl

variable (i : Importer ρ) (style : Option Style.StyleData) (pages : List Project.SourceFile) (site : Site ρ)

theorem publishPages_run (progress : Page.Progress) (after : Site ρ × Nat)
    (published : Page.publish i.store (Page.settingsOf style) "draft" true pages
      (site,site.workspace.drawnIds) = (progress,after)) :
    (i.publishPages style pages).run.run site = (match progress.failure with
      | some failure => .error failure
      | none => .ok progress,drawn after) := by
  unfold publishPages
  rw [run_bind,run_get]
  dsimp only
  rw [published]
  obtain ⟨stored,refused,failure⟩ := progress
  cases failure <;> rfl

/-- The progress that accounts for every page. -/
def progressOf (fates : List (Fate Page.Published)) : Page.Progress := ⟨values fates,lines fates,none⟩

theorem publishPages_follows :
    Follows (i.publishPages style pages) (i.tryPages style pages) progressOf allSound site := by
  obtain ⟨fates,after,tried,follows,stops⟩ :=
    publish_fates i.store (Page.settingsOf style) pages (site,site.workspace.drawnIds)
  have plan : (i.tryPages style pages).run.run site = (.ok fates,drawn after) := by
    unfold tryPages
    rw [storing_run,tried]
  constructor
  · intro fates' site' given good
    rw [plan] at given
    cases given
    exact i.publishPages_run style pages site _ _ (follows good)
  · intro bad
    obtain ⟨failure,ended,unreported⟩ := stops (bad fates _ plan)
    cases result : Page.publish i.store (Page.settingsOf style) "draft" true pages
        (site,site.workspace.drawnIds) with
    | mk progress left =>
      rw [result] at ended
      exact ⟨failure,drawn left,by rw [i.publishPages_run style pages site _ _ result,ended],unreported⟩

end Pagewright.Import.Importer

namespace Pagewright

theorem Preferences.Store.save_faults (s : Store) (preferences : Value) (w : Workspace) :
    FaultsOnly (s.save preferences) w := by
  refine faults_bind _ _ _ (Work.faults_change _ w) fun _ w₁ _ => ?_
  refine faults_bind _ _ _ (Work.faults_ofExcept _ w₁) fun entries w₂ _ => ?_
  exact Work.faults_change _ w₂

theorem Cache.Store.delete_faults (s : Store) (user : String) (w : Workspace) : FaultsOnly (s.delete user) w :=
  faults_bind _ _ _ (Work.faults_change _ w) fun _ w₁ _ => fun _ _ failed => by cases failed

theorem Settings.userFile_faults (w : Workspace) : FaultsOnly userFile w := by
  refine faults_bind _ _ _ (fun _ _ failed => by cases failed) fun seen w₁ _ => ?_
  exact faults_bind _ _ _ (Work.faults_ofExcept _ w₁) fun home w₂ _ => faults_pure _ w₂

theorem Settings.refresh_faults (w : Workspace) : FaultsOnly refresh w := by
  refine faults_bind _ _ _ (userFile_faults w) fun user w₁ _ => ?_
  refine faults_bind _ _ _ (Work.faults_ask _ w₁) fun userData w₂ _ => ?_
  refine faults_bind _ _ _ (fun _ _ failed => by cases failed) fun project w₃ _ => ?_
  refine faults_bind _ _ _ (Work.faults_ask _ w₃) fun projectData w₄ _ => ?_
  refine faults_bind _ _ _ (fun _ _ failed => by cases failed) fun seen w₅ _ => ?_
  refine faults_bind _ _ _ (Work.faults_ask _ w₅) fun userFile w₆ _ => ?_
  refine faults_bind _ _ _ (Work.faults_ask _ w₆) fun projectFile w₇ _ => ?_
  exact fun _ _ failed => by cases failed

theorem Settings.proOverride_faults (w : Workspace) : FaultsOnly proOverride w := by
  refine faults_bind _ _ _ ?_ fun v w₁ _ => ?_
  · refine faults_bind _ _ _ ?_ fun now w₁ _ => faults_pure _ w₁
    refine faults_bind _ _ _ (fun _ _ failed => by cases failed) fun seen w₁ _ => ?_
    split
    · exact faults_pure _ w₁
    · exact refresh_faults w₁
  · split <;> exact faults_pure _ w₁

namespace Import.Importer
open Host (RegistryFile Site SiteWork)
variable {ρ : Type} (i : Importer ρ) (user : String) (choices : Table String) (options : Options) (site : Site ρ)

theorem recommender_faults (w : Workspace) : FaultsOnly i.recommender w :=
  faults_bind _ _ _ (Settings.proOverride_faults w) fun _ w₁ _ => faults_pure _ w₁

theorem saveChoices_faults : FaultsOnly (i.saveChoices choices options) site := by
  unfold saveChoices
  split
  · exact SiteWork.faults_ofWork _ site (i.preferences.save_faults _ _)
  · exact faults_pure _ site

theorem applyStyle_faults (project : Project) (w : Workspace) : FaultsOnly (i.applyStyle user project) w := by
  refine faults_bind _ _ _ (Work.faults_ofExcept _ w) fun style w₁ _ => ?_
  refine faults_bind _ _ _ ?_ fun stored w₂ _ => faults_pure _ w₂
  unfold storeStylesheet
  dsimp only
  split
  · exact faults_pure _ w₁
  · refine faults_bind _ _ _ (Work.faults_change _ w₁) fun _ w₂ _ => ?_
    exact faults_bind _ _ _ (Work.faults_change _ w₂) fun _ w₃ _ => faults_pure _ w₃

theorem styleOf_faults (project : Project) : FaultsOnly (i.styleOf user options project) site := by
  unfold styleOf
  split
  · rw [map_eq_pure_bind]
    exact faults_bind _ _ _ (SiteWork.faults_ofWork _ site (i.applyStyle_faults user project _))
      fun style site₁ _ => faults_pure _ site₁
  · exact faults_pure _ site

end Import.Importer
end Pagewright
