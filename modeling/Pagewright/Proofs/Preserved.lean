import Pagewright.Page.Publish
import Pagewright.Proofs.Settings
import Pagewright.Proofs.Work

/-! Properties of a state that work preserves, whether it goes through or fails, on the workspace, on a site
and where pages are stored. -/
namespace Pagewright

section Rules

variable {σ α β : Type} (property : σ → Prop)

/-- Work after which a property still holds, however it ends. -/
def Preserves (work : ExceptT Failure (StateM σ) α) : Prop := ∀ s, property s → property (work.run.run s).2

variable {property}

theorem Preserves.later {work : ExceptT Failure (StateM σ) α} {a : α} {s s' : σ} (preserves : Preserves property work)
    (before : property s) (ok : work.run.run s = (.ok a,s')) : property s' := by
  have after := preserves s before
  rw [ok] at after
  exact after

theorem preserves_pure (a : α) : Preserves property (pure a) := fun _ => id

theorem preserves_throw (failure : Failure) :
    Preserves property (throw failure : ExceptT Failure (StateM σ) α) := fun _ => id

/-- Only what the first piece of work can return has to be considered in the second one. -/
theorem preserves_bind_given (work : ExceptT Failure (StateM σ) α) (next : α → ExceptT Failure (StateM σ) β)
    (first : Preserves property work)
    (rest : ∀ s a s', work.run.run s = (.ok a,s') → Preserves property (next a)) :
    Preserves property (work >>= next) := by
  intro s before
  have after := first s before
  rw [run_bind]
  rcases ran : work.run.run s with ⟨_ | a,left⟩
  · rw [ran] at after
    exact after
  · rw [ran] at after
    exact rest s a left ran left after

theorem preserves_bind (work : ExceptT Failure (StateM σ) α) (next : α → ExceptT Failure (StateM σ) β)
    (first : Preserves property work) (rest : ∀ a, Preserves property (next a)) :
    Preserves property (work >>= next) :=
  preserves_bind_given work next first fun _ a _ _ => rest a

theorem preserves_foldlM (step : β → α → ExceptT Failure (StateM σ) β) (items : List α) (first : β)
    (each : ∀ b a, Preserves property (step b a)) : Preserves property (items.foldlM step first) := by
  induction items generalizing first with
  | nil => exact preserves_pure first
  | cons item items ih =>
    rw [List.foldlM_cons]
    exact preserves_bind _ _ (each first item) ih

end Rules

namespace Work

variable {α : Type} {property : FileTree → Prop}

theorem preserves_looks (work : Work α) (looks : Settings.Looks work) :
    Preserves (fun w : Workspace => property w.files) work := by
  intro w before
  rw [looks w]
  exact before

theorem preserves_change (operation : FileTree → Except Fault FileTree)
    (step : ∀ t t', operation t = .ok t' → property t → property t') :
    Preserves (fun w : Workspace => property w.files) (change operation) := by
  intro w before
  cases made : operation w.files with
  | error fault =>
    rw [change_refused operation w fault made]
    exact before
  | ok files =>
    rw [change_run operation w files made]
    exact step _ _ made before

/-- Reading a setting leaves the files. -/
theorem preserves_setting (key : String) (default : Value) :
    Preserves (fun w : Workspace => property w.files) (Settings.get key default) := by
  intro w before
  rcases Settings.get_cases w with ⟨now,read⟩ | ⟨failure,failed⟩
  · rw [read]
    exact before
  · rw [failed]
    exact before

theorem preserves_proOverride : Preserves (fun w : Workspace => property w.files) Settings.proOverride := by
  unfold Settings.proOverride
  refine preserves_bind _ _ (preserves_setting _ _) fun v => ?_
  split <;> exact preserves_pure _

end Work

namespace Host.SiteWork

variable {ρ α : Type} {property : FileTree → Prop}

theorem preserves_ask (question : Site ρ → Except Failure α) :
    Preserves (fun site : Site ρ => property site.files) (ask question) := by
  intro site before
  rw [ask_run]
  exact before

theorem preserves_step (operation : Site ρ → Except Failure α × Site ρ)
    (each : ∀ site, property site.files → property (operation site).2.files) :
    Preserves (fun site : Site ρ => property site.files) (step operation) := by
  intro site before
  rw [step_run]
  exact each site before

theorem preserves_outcome (work : SiteWork ρ α) (inner : Preserves (fun site : Site ρ => property site.files) work) :
    Preserves (fun site : Site ρ => property site.files) (outcome work) := by
  intro site before
  rw [outcome_run]
  exact inner site before

theorem preserves_ofWork (work : Work α) (inner : Preserves (fun w : Workspace => property w.files) work) :
    Preserves (fun site : Site ρ => property site.files) (ofWork work) := by
  intro site before
  rw [ofWork_run]
  exact inner site.workspace before

end Host.SiteWork

end Pagewright
