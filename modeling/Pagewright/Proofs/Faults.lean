import Pagewright.Proofs.Work

/-! Work that fails with faults only: none of its failures is reported in words of its own. Beside such
work a plan may stand, which goes on where the work would fail: the work follows the plan as long as what
the plan gives is sound. -/
namespace Pagewright

section Rules

variable {σ α β : Type}

/-- A result that is refused with a fault if at all. -/
def Silent (r : Except Failure α) : Prop := ∀ failure, r = .error failure → failure.isReported = false

theorem silent_ok (a : α) : Silent (.ok a : Except Failure α) := fun _ refused => by cases refused

theorem silent_lift (r : Except Fault α) : Silent (liftM r : Except Failure α) := by
  intro failure refused
  cases r with
  | error fault => cases refused; rfl
  | ok a => cases refused

theorem silent_bind (first : Except Failure α) (next : α → Except Failure β) (one : Silent first)
    (rest : ∀ a, Silent (next a)) : Silent (first >>= next) := by
  intro failure refused
  cases first with
  | error reason => cases refused; exact one _ rfl
  | ok a => exact rest a failure refused

/-- Work that starts in a state and fails with faults only. -/
def FaultsOnly (work : ExceptT Failure (StateM σ) α) (s : σ) : Prop :=
  ∀ failure s', work.run.run s = (.error failure,s') → failure.isReported = false

theorem faults_pure (a : α) (s : σ) : FaultsOnly (pure a) s := fun _ _ failed => by cases failed

theorem faults_throw (fault : Fault) (s : σ) :
    FaultsOnly (throw (Failure.fault fault) : ExceptT Failure (StateM σ) α) s := by
  intro failure s' failed
  cases failed
  rfl

theorem faults_bind (work : ExceptT Failure (StateM σ) α) (next : α → ExceptT Failure (StateM σ) β) (s : σ)
    (first : FaultsOnly work s)
    (rest : ∀ a s', work.run.run s = (.ok a,s') → FaultsOnly (next a) s') : FaultsOnly (work >>= next) s := by
  intro failure s' failed
  rw [run_bind] at failed
  cases ran : work.run.run s with
  | mk outcome s₁ =>
    rw [ran] at failed
    cases outcome with
    | error reason => cases failed; exact first _ _ ran
    | ok a => exact rest a s₁ ran failure s' failed

/-- Work that cannot fail. -/
theorem faults_step (f : σ → α × σ) (s : σ) :
    FaultsOnly (ExceptT.lift (f : StateM σ α) : ExceptT Failure (StateM σ) α) s :=
  fun _ _ failed => by cases failed

/-- A result that is a fault in place of a value. -/
theorem faults_lift (r : Except Fault α) (s : σ) :
    FaultsOnly (liftM r : ExceptT Failure (StateM σ) α) s := by
  cases r with
  | error fault => exact faults_throw fault s
  | ok a => exact faults_pure a s

theorem faults_mapM (f : α → ExceptT Failure (StateM σ) β) (items : List α)
    (each : ∀ item s, FaultsOnly (f item) s) (s : σ) : FaultsOnly (items.mapM f) s := by
  induction items generalizing s with
  | nil => exact faults_pure _ s
  | cons item items ih =>
    rw [List.mapM_cons]
    refine faults_bind _ _ _ (each item s) fun first s₁ _ => ?_
    exact faults_bind _ _ _ (ih s₁) fun rest s₂ _ => faults_pure _ s₂

theorem faults_foldlM (f : β → α → ExceptT Failure (StateM σ) β) (items : List α)
    (each : ∀ b item s, FaultsOnly (f b item) s) (b : β) (s : σ) : FaultsOnly (items.foldlM f b) s := by
  induction items generalizing b s with
  | nil => exact faults_pure b s
  | cons item items ih =>
    rw [List.foldlM_cons]
    exact faults_bind _ _ _ (each b item s) fun b' s₁ _ => ih b' s₁

/-- All that work gives, from any state, has a property. -/
def Gives (work : ExceptT Failure (StateM σ) α) (property : α → Prop) : Prop :=
  ∀ s a s', work.run.run s = (.ok a,s') → property a

theorem gives_pure (property : α → Prop) (a : α) (holds : property a) :
    Gives (pure a : ExceptT Failure (StateM σ) α) property := by
  intro s b s' ran
  cases ran
  exact holds

theorem gives_bind (work : ExceptT Failure (StateM σ) α) (next : α → ExceptT Failure (StateM σ) β)
    (property : β → Prop) (rest : ∀ a, Gives (next a) property) : Gives (work >>= next) property := by
  intro s b s' ran
  obtain ⟨a,s₁,_,ran⟩ := run_bind_success _ _ _ _ _ ran
  exact rest a s₁ b s' ran

end Rules

section Following

variable {σ α β γ δ : Type}

/-- Work that follows a plan from a state: where the plan gives something sound, the work gives what that
stands for and leaves the same state; everywhere else it fails with a fault. -/
structure Follows (work : ExceptT Failure (StateM σ) α) (plan : ExceptT Failure (StateM σ) β) (view : β → α)
    (sound : β → Bool) (s : σ) : Prop where
  goes : ∀ b s', plan.run.run s = (.ok b,s') → sound b = true → work.run.run s = (.ok (view b),s')
  stops : (∀ b s', plan.run.run s = (.ok b,s') → sound b = false) →
    ∃ failure s', work.run.run s = (.error failure,s') ∧ failure.isReported = false

theorem follows_pure (view : β → α) (sound : β → Bool) (b : β) (s : σ) (good : sound b = true) :
    Follows (pure (view b)) (pure b) view sound s where
  goes c s' given _ := by cases given; rfl
  stops bad := by rw [bad b s rfl] at good; cases good

theorem follows_bind (work : ExceptT Failure (StateM σ) α) (plan : ExceptT Failure (StateM σ) β)
    (view : β → α) (sound : β → Bool) (next : α → ExceptT Failure (StateM σ) γ)
    (nextPlan : β → ExceptT Failure (StateM σ) δ) (nextView : δ → γ) (nextSound : δ → Bool) (s : σ)
    (first : Follows work plan view sound s)
    (rest : ∀ b s', plan.run.run s = (.ok b,s') → sound b = true →
      Follows (next (view b)) (nextPlan b) nextView nextSound s')
    (carried : ∀ b, sound b = false → Gives (nextPlan b) fun d => nextSound d = false) :
    Follows (work >>= next) (plan >>= nextPlan) nextView nextSound s := by
  constructor
  · -- What is sound in the end was sound before, as anything else is carried on.
    intro d s' given good
    obtain ⟨b,s₁,planned,given⟩ := run_bind_success _ _ _ _ _ given
    cases kind : sound b with
    | false => rw [carried b kind s₁ d s' given] at good; cases good
    | true =>
      rw [run_bind,first.goes b s₁ planned kind]
      exact (rest b s₁ planned kind).goes d s' given good
  · intro bad
    by_cases reached : ∃ b s₁, plan.run.run s = (.ok b,s₁) ∧ sound b = true
    · obtain ⟨b,s₁,planned,kind⟩ := reached
      have stopped := (rest b s₁ planned kind).stops fun d s' given => bad d s' (by rw [run_bind,planned]; exact given)
      rw [run_bind,first.goes b s₁ planned kind]
      exact stopped
    · obtain ⟨failure,s',failed,unreported⟩ := first.stops fun b s₁ planned =>
        eq_false_of_ne_true fun kind => reached ⟨b,s₁,planned,kind⟩
      exact ⟨failure,s',by rw [run_bind,failed],unreported⟩

theorem follows_map (work : ExceptT Failure (StateM σ) α) (plan : ExceptT Failure (StateM σ) β) (f : β → γ)
    (view : γ → α) (sound : γ → Bool) (s : σ) (follows : Follows work plan (view ∘ f) (sound ∘ f) s) :
    Follows work (plan >>= fun b => pure (f b)) view sound s := by
  constructor
  · intro c s' given good
    obtain ⟨b,s₁,planned,given⟩ := run_bind_success _ _ _ _ _ given
    cases given
    exact follows.goes b s' planned good
  · intro bad
    exact follows.stops fun b s' planned => bad (f b) s' (by rw [run_bind,planned]; rfl)

/-- Work that is part of the plan. -/
theorem follows_step (work : ExceptT Failure (StateM σ) α) (next : α → ExceptT Failure (StateM σ) γ)
    (nextPlan : α → ExceptT Failure (StateM σ) δ) (view : δ → γ) (sound : δ → Bool) (s : σ)
    (faults : FaultsOnly work s)
    (rest : ∀ a s', work.run.run s = (.ok a,s') → Follows (next a) (nextPlan a) view sound s') :
    Follows (work >>= next) (work >>= nextPlan) view sound s := by
  have same : Follows work work id (fun _ => true) s := by
    refine ⟨fun b s' given _ => given,fun bad => ?_⟩
    cases ran : work.run.run s with
    | mk outcome s' =>
      cases outcome with
      | error failure => exact ⟨failure,s',rfl,faults failure s' ran⟩
      | ok a => cases bad a s' ran
  exact follows_bind work work id _ next nextPlan view sound s same (fun a s' given _ => rest a s' given) nofun

end Following

namespace Work

variable {α : Type}

theorem faults_ask (question : FileTree → Except Fault α) (w : Workspace) : FaultsOnly (ask question) w := by
  intro failure w' failed
  rw [ask_run] at failed
  cases asked : question w.files with
  | error fault => rw [asked] at failed; cases failed; rfl
  | ok answer => rw [asked] at failed; cases failed

theorem faults_change (operation : FileTree → Except Fault FileTree) (w : Workspace) :
    FaultsOnly (change operation) w :=
  faults_bind _ _ _ (faults_ask operation w) fun files w₁ _ =>
    faults_step (fun w : Workspace => ((),{ w with files })) w₁

theorem faults_ofExcept (r : Except Fault α) (w : Workspace) :
    FaultsOnly (ofExcept (r.mapError .fault)) w := by
  cases r with
  | error fault => exact faults_throw fault w
  | ok a => exact faults_pure a w

end Work

theorem Host.SiteWork.faults_ofWork {ρ α : Type} (work : Work α) (site : Site ρ)
    (inner : FaultsOnly work site.workspace) : FaultsOnly (ofWork (ρ := ρ) work) site := by
  intro failure site' failed
  rw [ofWork_run] at failed
  have same := congrArg (fun ran : Except Failure α × Site ρ => ran.1) failed
  exact inner failure _ (Prod.ext same rfl)

end Pagewright
