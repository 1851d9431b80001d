import Pagewright.Proofs.Import.Course

/-! The batches of an import beside the fates of their items: a batch accounts for every item, unless one
of them fails with a fault, which ends it. -/
namespace Pagewright.Import
open Detection (Recommender)
open Host (RegistryFile Site SiteWork DocumentStore)

theorem attempt_run {σ β : Type} (line : Failure → String) (work : ExceptT Failure (StateM σ) (Option β))
    (s : σ) : (attempt line work).run.run s = (.ok (Fate.of line (work.run.run s).1),(work.run.run s).2) := rfl

/-- A batch with what became of one more item. -/
def Batch.add (batch : Batch) : Fate String → Batch
  | .idle => batch
  | .done id => batch.withSuccess id
  | .failed line _ => batch.withError line

/-- A batch with what became of more items. -/
def Batch.addAll (batch : Batch) (fates : List (Fate String)) : Batch :=
  ⟨batch.succeeded ++ values fates,batch.errors ++ lines fates⟩

theorem values_cons {β : Type} (fate : Fate β) (fates : List (Fate β)) :
    values (fate :: fates) = fate.value?.toList ++ values fates := by
  unfold values
  rw [List.filterMap_cons]
  cases fate.value? <;> rfl

theorem lines_cons {β : Type} (fate : Fate β) (fates : List (Fate β)) :
    lines (fate :: fates) = fate.line?.toList ++ lines fates := by
  unfold lines
  rw [List.filterMap_cons]
  cases fate.line? <;> rfl

theorem addAll_cons (batch : Batch) (fate : Fate String) (fates : List (Fate String)) :
    batch.addAll (fate :: fates) = (batch.add fate).addAll fates := by
  cases fate <;> simp [Batch.addAll,Batch.add,Batch.withSuccess,Batch.withError,values_cons,lines_cons,
    Fate.value?,Fate.line?]

theorem allSound_cons {β : Type} (fate : Fate β) (fates : List (Fate β)) :
    allSound (fate :: fates) = (fate.isSound && allSound fates) := List.all_cons

variable {ρ α : Type}

/-- What a step of a batch comes to by the fate of its item. -/
def ended {σ : Type} (batch : Batch) : Fate String → σ → Except Failure Batch × σ
  | .failed line failure,s =>
    if failure.isReported then (.ok (batch.withError line),s) else (.error failure,s)
  | fate,s => (.ok (batch.add fate),s)

theorem ended_sound {σ : Type} (batch : Batch) (fate : Fate String) (s : σ) (good : fate.isSound = true) :
    ended batch fate s = (.ok (batch.add fate),s) := by
  cases fate with
  | failed line failure => exact if_pos good
  | _ => rfl

theorem ended_unsound {σ : Type} (batch : Batch) (fate : Fate String) (s : σ) (bad : fate.isSound = false) :
    ∃ failure, ended batch fate s = (.error failure,s) ∧ failure.isReported = false := by
  cases fate with
  | failed line failure =>
    have unreported : failure.isReported = false := bad
    exact ⟨failure,if_neg (by rw [unreported]; exact nofun),unreported⟩
  | _ => cases bad

theorem follows_attempt (step : SiteWork ρ Batch) (batch : Batch) (line : Failure → String)
    (work : SiteWork ρ (Option String)) (site : Site ρ)
    (same : step.run.run site = ended batch (Fate.of line (work.run.run site).1) (work.run.run site).2) :
    Follows step (attempt line work) batch.add Fate.isSound site := by
  have plan := attempt_run line work site
  generalize Fate.of line (work.run.run site).1 = fate at same plan
  generalize (work.run.run site).2 = site' at same plan
  constructor
  · intro f s given good
    rw [plan] at given
    cases given
    exact same.trans (ended_sound batch fate site' good)
  · intro bad
    obtain ⟨failure,stopped,unreported⟩ := ended_unsound batch fate site' (bad fate site' plan)
    exact ⟨failure,site',same.trans stopped,unreported⟩

/-- A batch accounts for its items, where a step of it does for one item and the steps keep what that
rests on. -/
theorem follows_fold (step : Batch → α → SiteWork ρ Batch) (fate : α → SiteWork ρ (Fate String))
    (invariant : Site ρ → Prop) (items : List α)
    (follows : ∀ item ∈ items, ∀ batch site, invariant site →
      Follows (step batch item) (fate item) batch.add Fate.isSound site)
    (kept : ∀ item ∈ items, ∀ site f site', invariant site → (fate item).run.run site = (.ok f,site') →
      invariant site')
    (batch : Batch) (site : Site ρ) (holds : invariant site) :
    Follows (items.foldlM step batch) (items.mapM fate) batch.addAll allSound site := by
  induction items generalizing batch site with
  | nil =>
    have none : Follows (pure (batch.addAll [])) (pure [] : SiteWork ρ (List (Fate String))) batch.addAll
      allSound site := follows_pure _ _ _ site rfl
    simpa [Batch.addAll,values,lines] using none
  | cons item items ih =>
    rw [List.foldlM_cons,List.mapM_cons]
    refine follows_bind _ _ _ _ _ _ _ _ site (follows item List.mem_cons_self batch site holds) ?_ ?_
    · intro f site' given good
      have later := kept item List.mem_cons_self site f site' holds given
      have rest := ih (fun other member => follows other (List.mem_cons_of_mem item member))
        (fun other member => kept other (List.mem_cons_of_mem item member)) (batch.add f) site' later
      have view : batch.addAll ∘ (f :: ·) = (batch.add f).addAll := funext fun fates => addAll_cons batch f fates
      have sound : allSound ∘ (f :: ·) = (allSound : List (Fate String) → Bool) := funext fun fates => by
        simp [allSound_cons,good]
      rw [← view,← sound] at rest
      exact follows_map _ _ _ _ _ _ rest
    · intro f bad
      refine gives_bind _ _ _ fun fates => gives_pure _ _ ?_
      simp [allSound_cons,bad]

namespace Importer

theorem reportLine_run (batch : Batch) (what : String) (failure : Failure) (site : Site ρ) :
    (reportLine batch what failure).run.run site =
      ended batch (.failed s!"Failed to {what}: {failure.message}" failure) site := by
  unfold reportLine
  dsimp only [ended]
  split <;> rfl

section Images

variable (i : Importer ρ)

theorem imageWork_run (image : Project.AssetFile) (site : Site ρ) : (i.imageWork image).run.run site =
    match Cache.Store.imagePath image with
    | .error fault => (.error (.fault fault),site)
    | .ok file => ((i.media.add file image.name site).1.map some,(i.media.add file image.name site).2) := by
  unfold imageWork
  rw [run_bind,SiteWork.ask_run]
  rcases Cache.Store.imagePath image with fault | file
  · rfl
  · dsimp only [Except.mapError]
    rw [map_eq_pure_bind,run_bind,SiteWork.step_run]
    rcases i.media.add file image.name site with ⟨failure | id,site'⟩ <;> rfl

theorem importImage_ended (batch : Batch) (image : Project.AssetFile) (site : Site ρ) :
    (i.importImage batch image).run.run site = ended batch
      (Fate.of (imageLine image) ((i.imageWork image).run.run site).1) ((i.imageWork image).run.run site).2 := by
  rw [imageWork_run]
  unfold importImage
  rw [run_bind,SiteWork.ask_run]
  rcases Cache.Store.imagePath image with fault | file
  · rfl
  · dsimp only [Except.mapError]
    rw [run_bind,SiteWork.outcome_run,SiteWork.step_run]
    rcases i.media.add file image.name site with ⟨failure | id,site'⟩
    · exact reportLine_run batch _ failure site'
    · rfl

theorem imageBatch_follows (options : Options) (images : List Project.AssetFile) (site : Site ρ) :
    Follows (i.imageBatch options images) (i.tryImages options images) Batch.empty.addAll allSound site := by
  unfold imageBatch tryImages
  split
  · exact follows_fold i.importImage _ (fun _ => True) images
      (fun image _ batch site _ => follows_attempt _ batch _ _ site (i.importImage_ended batch image site))
      (fun _ _ _ _ _ _ _ => trivial) .empty site trivial
  · exact follows_pure Batch.empty.addAll allSound [] site rfl

end Images

end Importer

end Pagewright.Import
