import Pagewright.Host.Site
import Pagewright.Proofs.Except

/-! Work on the state step by step: what it gives, what state it leaves, and what it keeps true of the
files, whether it goes through or fails on the way. Work on a site is run in the same way. -/
namespace Pagewright.Work

variable {α β : Type}

/-- What work gives. -/
@[irreducible]
def result (work : Work α) (w : Workspace) : Except Failure α := (work.run.run w).1

/-- The state that work leaves, also where it fails. -/
@[irreducible]
def after (work : Work α) (w : Workspace) : Workspace := (work.run.run w).2

theorem bind_failed (work : Work α) (next : α → Work β) (w : Workspace) (failure : Failure)
    (failed : work.result w = .error failure) :
    (work >>= next).result w = .error failure ∧ (work >>= next).after w = work.after w := by
  unfold result after at *
  rw [run_bind]
  generalize work.run.run w = ran at *
  obtain ⟨outcome,left⟩ := ran
  cases failed
  exact ⟨rfl,rfl⟩

theorem bind_done (work : Work α) (next : α → Work β) (w : Workspace) (a : α)
    (done : work.result w = .ok a) :
    (work >>= next).result w = (next a).result (work.after w) ∧
      (work >>= next).after w = (next a).after (work.after w) := by
  unfold result after at *
  rw [run_bind]
  generalize work.run.run w = ran at *
  obtain ⟨outcome,left⟩ := ran
  cases done
  exact ⟨rfl,rfl⟩

theorem pure_result (a : α) (w : Workspace) : (pure a : Work α).result w = .ok a := by
  unfold result
  rfl

theorem pure_after (a : α) (w : Workspace) : (pure a : Work α).after w = w := by
  unfold after
  rfl

theorem throw_result (failure : Failure) (w : Workspace) :
    (throw failure : Work α).result w = .error failure := by
  unfold result
  rfl

theorem throw_after (failure : Failure) (w : Workspace) : (throw failure : Work α).after w = w := by
  unfold after
  rfl

theorem get_result (w : Workspace) : (MonadState.get : Work Workspace).result w = .ok w := by
  unfold result
  rfl

theorem get_after (w : Workspace) : (MonadState.get : Work Workspace).after w = w := by
  unfold after
  rfl

theorem modify_result (f : Workspace → Workspace) (w : Workspace) :
    (modify f : Work Unit).result w = .ok () := by
  unfold result
  rfl

theorem modify_after (f : Workspace → Workspace) (w : Workspace) :
    (modify f : Work Unit).after w = f w := by
  unfold after
  rfl

theorem modify_run (f : Workspace → Workspace) (w : Workspace) :
    (modify f : Work Unit).run.run w = (.ok (),f w) := rfl

theorem ask_run (question : FileTree → Except Fault α) (w : Workspace) :
    (ask question).run.run w = ((question w.files).mapError Failure.fault,w) := by
  unfold ask
  rw [run_bind,run_get]
  dsimp only
  cases question w.files <;> rfl

theorem outcome_run (work : Work α) (w : Workspace) :
    (outcome work).run.run w = (.ok (work.run.run w).1,(work.run.run w).2) := rfl

theorem ask_after (question : FileTree → Except Fault α) (w : Workspace) :
    (ask question).after w = w := by rw [after,ask_run]

theorem ask_result (question : FileTree → Except Fault α) (w : Workspace) :
    (ask question).result w = (question w.files).mapError .fault := by rw [result,ask_run]

/-- A change of the files takes place as a whole or not at all. -/
theorem change_cases (operation : FileTree → Except Fault FileTree) (w : Workspace) :
    (∃ fault, operation w.files = .error fault ∧ (change operation).result w = .error (.fault fault) ∧
      (change operation).after w = w) ∨
    (∃ files, operation w.files = .ok files ∧ (change operation).result w = .ok () ∧
      (change operation).after w = { w with files }) := by
  unfold change
  cases made : operation w.files with
  | error fault =>
    left
    have asked : (ask operation).result w = .error (.fault fault) := by rw [ask_result,made]; rfl
    obtain ⟨failed,stays⟩ := bind_failed _ (fun files => modify fun w => { w with files }) w _ asked
    exact ⟨fault,rfl,failed,stays.trans (ask_after operation w)⟩
  | ok files =>
    right
    have asked : (ask operation).result w = .ok files := by rw [ask_result,made]; rfl
    obtain ⟨given,left⟩ := bind_done _ (fun files => modify fun w => { w with files }) w _ asked
    rw [ask_after] at given left
    rw [modify_result] at given
    rw [modify_after] at left
    exact ⟨files,rfl,given,left⟩

theorem change_success (operation : FileTree → Except Fault FileTree) (w w' : Workspace)
    (ok : (change operation).run.run w = (.ok (),w')) :
    ∃ files, operation w.files = .ok files ∧ w' = { w with files } := by
  unfold change at ok
  rw [run_bind,ask_run] at ok
  cases made : operation w.files with
  | error fault =>
    rw [made] at ok
    cases ok
  | ok files =>
    rw [made] at ok
    cases ok
    exact ⟨files,rfl,rfl⟩

theorem change_run (operation : FileTree → Except Fault FileTree) (w : Workspace) (files : FileTree)
    (made : operation w.files = .ok files) : (change operation).run.run w = (.ok (),{ w with files }) := by
  unfold change
  rw [run_bind,ask_run,made]
  rfl

theorem change_refused (operation : FileTree → Except Fault FileTree) (w : Workspace) (fault : Fault)
    (refused : operation w.files = .error fault) :
    (change operation).run.run w = (.error (.fault fault),w) := by
  unfold change
  rw [run_bind,ask_run,refused]
  rfl

/-- What holds of the result of work and of the files that it leaves. -/
structure Ensures (work : Work α) (w : Workspace) (post : Except Failure α → FileTree → Prop) : Prop where
  holds : post (work.result w) (work.after w).files

theorem ensures_bind (work : Work α) (next : α → Work β) (w : Workspace)
    (post : Except Failure β → FileTree → Prop)
    (fails : ∀ failure, work.result w = .error failure → post (.error failure) (work.after w).files)
    (goes : ∀ a, work.result w = .ok a → Ensures (next a) (work.after w) post) :
    Ensures (work >>= next) w post := by
  constructor
  cases given : work.result w with
  | error failure =>
    obtain ⟨failed,left⟩ := bind_failed work next w failure given
    rw [failed,left]
    exact fails failure given
  | ok a =>
    obtain ⟨result,left⟩ := bind_done work next w a given
    rw [result,left]
    exact (goes a given).holds

section Rules

variable (w : Workspace) (post : Except Failure α → FileTree → Prop)

theorem ensures_pure (a : α) (holds : post (.ok a) w.files) : Ensures (pure a : Work α) w post := by
  constructor
  rw [pure_result,pure_after]
  exact holds

theorem ensures_throw (failure : Failure) (holds : post (.error failure) w.files) :
    Ensures (throw failure : Work α) w post := by
  constructor
  rw [throw_result,throw_after]
  exact holds

theorem ensures_modify (f : Workspace → Workspace) (post : Except Failure Unit → FileTree → Prop)
    (holds : post (.ok ()) (f w).files) : Ensures (modify f) w post := by
  constructor
  rw [modify_result,modify_after]
  exact holds

theorem ensures_get (next : Workspace → Work α) (goes : Ensures (next w) w post) :
    Ensures (MonadState.get >>= next) w post := by
  apply ensures_bind
  · intro failure failed
    rw [get_result] at failed
    cases failed
  · intro state given
    rw [get_result] at given
    cases given
    rw [get_after]
    exact goes

theorem ensures_ofExcept (r : Except Failure β) (next : β → Work α)
    (fails : ∀ failure, r = .error failure → post (.error failure) w.files)
    (goes : ∀ b, r = .ok b → Ensures (next b) w post) : Ensures (ofExcept r >>= next) w post := by
  apply ensures_bind
  · intro failure failed
    cases r with
    | error reason =>
      rw [ofExcept,throw_result] at failed
      cases failed
      simp only [ofExcept,throw_after]
      exact fails failure rfl
    | ok value => rw [ofExcept,pure_result] at failed; cases failed
  · intro b given
    cases r with
    | error failure => rw [ofExcept,throw_result] at given; cases given
    | ok value =>
      rw [ofExcept,pure_result] at given
      cases given
      simp only [ofExcept,pure_after]
      exact goes b rfl

end Rules

theorem ensures_ask (question : FileTree → Except Fault α) (next : α → Work β) (w : Workspace)
    (post : Except Failure β → FileTree → Prop)
    (fails : ∀ failure, post (.error failure) w.files)
    (goes : ∀ a, question w.files = .ok a → Ensures (next a) w post) :
    Ensures (ask question >>= next) w post := by
  apply ensures_bind
  · intro failure _
    rw [ask_after]
    exact fails failure
  · intro a given
    rw [ask_after]
    rw [ask_result] at given
    cases asked : question w.files with
    | error fault => rw [asked] at given; cases given
    | ok answer => rw [asked] at given; cases given; exact goes _ asked

theorem ensures_change (operation : FileTree → Except Fault FileTree) (next : Unit → Work β)
    (w : Workspace) (post : Except Failure β → FileTree → Prop)
    (fails : ∀ failure, post (.error failure) w.files)
    (goes : ∀ files, operation w.files = .ok files → Ensures (next ()) { w with files } post) :
    Ensures (change operation >>= next) w post := by
  rcases change_cases operation w with ⟨fault,_,failed,left⟩ | ⟨files,made,done,left⟩
  · apply ensures_bind
    · intro failure _
      rw [left]
      exact fails failure
    · intro a given
      rw [failed] at given
      cases given
  · apply ensures_bind
    · intro failure given
      rw [done] at given
      cases given
    · intro a given
      rw [left]
      exact goes files made

theorem ensures_ask_ok (question : FileTree → Except Fault α) (next : α → Work β) (w : Workspace)
    (post : Except Failure β → FileTree → Prop) (a : α) (answered : question w.files = .ok a)
    (goes : Ensures (next a) w post) : Ensures (ask question >>= next) w post := by
  obtain ⟨result,left⟩ := bind_done (ask question) next w a (by rw [ask_result,answered]; rfl)
  rw [ask_after] at result left
  constructor
  rw [result,left]
  exact goes.holds

theorem ensures_change_ok (operation : FileTree → Except Fault FileTree) (next : Unit → Work β)
    (w : Workspace) (post : Except Failure β → FileTree → Prop) (files : FileTree)
    (made : operation w.files = .ok files) (goes : Ensures (next ()) { w with files } post) :
    Ensures (change operation >>= next) w post := by
  rcases change_cases operation w with ⟨fault,failed,_,_⟩ | ⟨files',made',done,left⟩
  · rw [made] at failed
    cases failed
  · rw [made] at made'
    cases made'
    obtain ⟨result,after⟩ := bind_done (change operation) next w () done
    constructor
    rw [result,after,left]
    exact goes.holds

/-- Work goes on to nothing but a result. -/
theorem bind_pure_after (work : Work α) (f : α → β) (w : Workspace) :
    (work >>= fun a => pure (f a)).after w = work.after w := by
  cases given : work.result w with
  | error failure => exact (bind_failed _ _ w failure given).2
  | ok a => rw [(bind_done _ _ w a given).2,pure_after]

/-- Work on items that leaves the state alone for the first of them. -/
theorem mapM_append_after (f : α → Work β) (items more : List α) (w : Workspace)
    (silent : ∀ item ∈ items, ∃ b, (f item).result w = .ok b ∧ (f item).after w = w) :
    ((items ++ more).mapM f).after w = (more.mapM f).after w := by
  induction items with
  | nil => rfl
  | cons item items ih =>
    obtain ⟨b,given,left⟩ := silent item List.mem_cons_self
    rw [List.cons_append,List.mapM_cons,(bind_done _ _ w b given).2,left,bind_pure_after]
    exact ih fun other member => silent other (List.mem_cons_of_mem item member)

/-- Work keeps a property of the files, also where it fails. -/
structure Keeps (property : FileTree → Prop) (work : Work α) : Prop where
  holds : ∀ w, property w.files → property (work.after w).files

variable (property : FileTree → Prop)

theorem keeps_pure (a : α) : Keeps property (pure a : Work α) := by
  constructor
  intro w holds
  rw [pure_after]
  exact holds

theorem keeps_ask (question : FileTree → Except Fault α) : Keeps property (ask question) := by
  constructor
  intro w holds
  rw [ask_after]
  exact holds

theorem keeps_bind (work : Work α) (next : α → Work β) (first : Keeps property work)
    (rest : ∀ a, Keeps property (next a)) : Keeps property (work >>= next) := by
  constructor
  intro w holds
  have reached := first.holds w holds
  cases given : work.result w with
  | error failure => rw [(bind_failed work next w failure given).2]; exact reached
  | ok a => rw [(bind_done work next w a given).2]; exact (rest a).holds _ reached

theorem keeps_change (operation : FileTree → Except Fault FileTree)
    (step : ∀ t t', property t → operation t = .ok t' → property t') :
    Keeps property (change operation) := by
  constructor
  intro w holds
  rcases change_cases operation w with ⟨fault,_,_,left⟩ | ⟨files,made,_,left⟩
  · rw [left]; exact holds
  · rw [left]; exact step _ _ holds made

theorem keeps_modify (f : Workspace → Workspace) (step : ∀ w, property w.files → property (f w).files) :
    Keeps property (modify f : Work Unit) := by
  constructor
  intro w holds
  rw [modify_after]
  exact step w holds

theorem keeps_mapM (f : α → Work β) (items : List α)
    (each : ∀ item ∈ items, Keeps property (f item)) : Keeps property (items.mapM f) := by
  induction items with
  | nil => exact keeps_pure property _
  | cons item items ih =>
    rw [List.mapM_cons]
    refine keeps_bind property _ _ (each item List.mem_cons_self) fun first => ?_
    refine keeps_bind property _ _ (ih fun other member => ?_) fun rest => keeps_pure property _
    exact each other (List.mem_cons_of_mem item member)

end Pagewright.Work

namespace Pagewright.Host.SiteWork

variable {ρ α : Type} (site : Site ρ)

theorem ask_run (question : Site ρ → Except Failure α) :
    (ask question).run.run site = (question site,site) := by
  unfold ask
  rw [run_bind,run_get]
  dsimp only
  cases question site <;> rfl

theorem step_run (operation : Site ρ → Except Failure α × Site ρ) :
    (step operation).run.run site = operation site := by
  unfold step
  rw [run_bind,run_get]
  dsimp only
  rcases operation site with ⟨_ | _,_⟩ <;> rfl

theorem outcome_run (work : SiteWork ρ α) :
    (outcome work).run.run site = (.ok (work.run.run site).1,(work.run.run site).2) := rfl

theorem ofWork_run (work : Work α) : (ofWork (ρ := ρ) work).run.run site =
    ((work.run.run site.workspace).1,{ site with workspace := (work.run.run site.workspace).2 }) := by
  unfold ofWork
  rw [run_bind,run_get]
  dsimp only
  have same : work.run site.workspace = work.run.run site.workspace := rfl
  rw [same]
  rcases work.run.run site.workspace with ⟨_ | _,_⟩ <;> rfl

theorem ofWork_success (work : Work α) (a : α) (site' : Site ρ)
    (ok : (ofWork work).run.run site = (.ok a,site')) : ∃ w, work.run.run site.workspace = (.ok a,w) ∧
      site' = { site with workspace := w } := by
  rw [ofWork_run] at ok
  generalize work.run.run site.workspace = ran at ok ⊢
  obtain ⟨outcome,w⟩ := ran
  cases ok
  exact ⟨w,rfl,rfl⟩

end Pagewright.Host.SiteWork
