import Pagewright.Proofs.Files.Places
import Pagewright.Proofs.Work
import Pagewright.Settings.Access

/-! Settings are remembered: once they have been read, they are read again without any effect. They are read where both
settings files are, and are then what the layers make. -/
namespace Pagewright.Settings

variable (w w' : Workspace) (now : Resolved)

theorem refresh_remembers (ok : refresh.run.run w = (.ok now,w')) : w'.settings = some now := by
  obtain ⟨user,w₁,_,ok⟩ := run_bind_success _ _ _ _ _ ok
  obtain ⟨userData,w₂,_,ok⟩ := run_bind_success _ _ _ _ _ ok
  obtain ⟨project,w₃,_,ok⟩ := run_bind_success _ _ _ _ _ ok
  obtain ⟨projectData,w₄,_,ok⟩ := run_bind_success _ _ _ _ _ ok
  obtain ⟨seen,w₅,_,ok⟩ := run_bind_success _ _ _ _ _ ok
  obtain ⟨userFile,w₆,_,ok⟩ := run_bind_success _ _ _ _ _ ok
  obtain ⟨projectFile,w₇,_,ok⟩ := run_bind_success _ _ _ _ _ ok
  obtain ⟨_,w₈,changed,ok⟩ := run_bind_success _ _ _ _ _ ok
  cases changed
  cases ok
  rfl

theorem resolved_remembers (ok : resolved.run.run w = (.ok now,w')) : w'.settings = some now := by
  obtain ⟨seen,w₁,got,ok⟩ := run_bind_success _ _ _ _ _ ok
  cases got
  cases known : w.settings with
  | none =>
    rw [known] at ok
    exact refresh_remembers w w' now ok
  | some old =>
    rw [known] at ok
    cases ok
    exact known

theorem resolved_again (known : w.settings = some now) : resolved.run.run w = (.ok now,w) := by
  unfold resolved
  rw [run_bind,run_get]
  dsimp only
  rw [known]
  rfl

/-- The state of the pro tier that settings fix. -/
def overrideIn (now : Resolved) : Option Bool :=
  match getD (.object now.data) "host.pro_active" (.str "auto") with
  | .bool active => some active
  | _ => none

theorem proOverride_remembers (override : Option Bool) (ok : proOverride.run.run w = (.ok override,w')) :
    ∃ now, w'.settings = some now ∧ override = overrideIn now := by
  obtain ⟨v,w₁,got,ok⟩ := run_bind_success _ _ _ _ _ ok
  obtain ⟨now,w₂,read,got⟩ := run_bind_success _ _ _ _ _ got
  cases got
  have same : w₁ = w' ∧ override = overrideIn now := by
    unfold overrideIn
    generalize getD (.object now.data) "host.pro_active" (.str "auto") = v at ok ⊢
    cases v <;> cases ok <;> exact ⟨rfl,rfl⟩
  exact ⟨now,same.1 ▸ resolved_remembers w w₁ now read,same.2⟩

theorem proOverride_again (known : w.settings = some now) :
    proOverride.run.run w = (.ok (overrideIn now),w) := by
  have read : (get "host.pro_active" (.str "auto")).run.run w =
      (.ok (getD (.object now.data) "host.pro_active" (.str "auto")),w) := by
    unfold get
    rw [run_bind,resolved_again w now known]
    rfl
  unfold proOverride overrideIn
  rw [run_bind,read]
  dsimp only
  generalize getD (.object now.data) "host.pro_active" (.str "auto") = v
  cases v <;> rfl

section Reading

/-- Work that looks at the state and leaves it. -/
def Looks {α : Type} (work : Work α) : Prop := ∀ w, (work.run.run w).2 = w

theorem looks_pure {α : Type} (a : α) : Looks (pure a) := fun _ => rfl

theorem looks_get : Looks MonadState.get := fun _ => rfl

theorem looks_ofExcept {α : Type} (r : Except Failure α) : Looks (Work.ofExcept r) := by
  intro w
  cases r <;> rfl

theorem looks_ask {α : Type} (question : FileTree → Except Fault α) : Looks (Work.ask question) := by
  intro w
  rw [Work.ask_run]

theorem looks_bind {α β : Type} (work : Work α) (next : α → Work β) (first : Looks work)
    (rest : ∀ a, Looks (next a)) : Looks (work >>= next) := by
  intro w
  have same := first w
  rw [run_bind]
  rcases ran : work.run.run w with ⟨_ | a,left⟩
  · rw [ran] at same
    exact same
  · rw [ran] at same
    exact (rest a left).trans same

theorem userFile_looks : Looks userFile :=
  looks_bind _ _ looks_get fun _ => looks_bind _ _ (looks_ofExcept _) fun _ => looks_pure _

theorem projectFile_looks : Looks projectFile := looks_bind _ _ looks_get fun _ => looks_pure _

/-- How reading settings ends: with settings that are remembered from then on, or with nothing changed. -/
def Remembers (work : Work Resolved) (w : Workspace) : Prop :=
  (∃ now, work.run.run w = (.ok now,{ w with settings := some now })) ∨
    ∃ failure, work.run.run w = (.error failure,w)

theorem remembers_bind {α : Type} (work : Work α) (next : α → Work Resolved) (w : Workspace)
    (first : Looks work) (rest : ∀ a, Remembers (next a) w) : Remembers (work >>= next) w := by
  have same := first w
  unfold Remembers
  rw [run_bind]
  rcases ran : work.run.run w with ⟨failure | a,left⟩
  · rw [ran] at same
    exact .inr ⟨failure,congrArg _ same⟩
  · rw [ran] at same
    cases same
    exact rest a

theorem refresh_cases : Remembers refresh w := by
  refine remembers_bind _ _ w userFile_looks fun user => ?_
  refine remembers_bind _ _ w (looks_ask _) fun userData => ?_
  refine remembers_bind _ _ w projectFile_looks fun project => ?_
  refine remembers_bind _ _ w (looks_ask _) fun projectData => ?_
  refine remembers_bind _ _ w looks_get fun seen => ?_
  refine remembers_bind _ _ w (looks_ask _) fun userFile => ?_
  refine remembers_bind _ _ w (looks_ask _) fun projectFile => ?_
  exact .inl ⟨_,rfl⟩

theorem resolved_cases : Remembers resolved w := by
  cases known : w.settings with
  | some now => exact .inl ⟨now,by rw [resolved_again w now known,← known]⟩
  | none =>
    unfold Remembers resolved
    rw [run_bind,run_get]
    dsimp only
    rw [known]
    exact refresh_cases w

theorem get_known (key : String) (default : Value) (known : w.settings = some now) :
    (get key default).run.run w = (.ok (getD (.object now.data) key default),w) := by
  unfold get
  rw [run_bind,resolved_again w now known]
  rfl

/-- Reading any setting fails, or the settings are remembered from then on. -/
theorem get_cases :
    (∃ now, ∀ key default, (get key default).run.run w =
        (.ok (getD (.object now.data) key default),{ w with settings := some now })) ∨
      ∃ failure, ∀ key default, (get key default).run.run w = (.error failure,w) := by
  unfold get
  rcases resolved_cases w with ⟨now,ran⟩ | ⟨failure,ran⟩
  · refine .inl ⟨now,fun key default => ?_⟩
    rw [run_bind,ran]
    rfl
  · refine .inr ⟨failure,fun key default => ?_⟩
    rw [run_bind,ran]

/-- A path is the same before and after the settings are remembered. -/
theorem path?_remembered (key : String) (read : ∀ key default, (get key default).run.run w =
      (.ok (getD (.object now.data) key default),{ w with settings := some now })) :
    (path? key).run.run w = (path? key).run.run { w with settings := some now } := by
  unfold path?
  rw [run_bind,run_bind,read,get_known _ now _ _ rfl]

theorem path?_looks (key : String) (known : w.settings = some now) : ((path? key).run.run w).2 = w := by
  unfold path?
  rw [run_bind,get_known w now _ _ known]
  dsimp only
  split
  · exact looks_bind _ _ looks_get (fun _ => looks_bind _ _ (looks_ofExcept _) fun _ => looks_pure _) w
  · rfl

/-- Asking for the greatest size of an archive fails, or the settings are remembered from then on. -/
theorem maxArchiveBytes_cases :
    (∃ now, (maxArchiveBytes.run.run w).2 = { w with settings := some now } ∧
        ∀ key, (path? key).run.run w = (path? key).run.run { w with settings := some now }) ∨
      ∃ failure, maxArchiveBytes.run.run w = (.error failure,w) := by
  unfold maxArchiveBytes
  rcases get_cases w with ⟨now,read⟩ | ⟨failure,failed⟩
  · left
    refine ⟨now,?_,fun key => path?_remembered w now key read⟩
    rw [run_bind,read]
    exact looks_bind _ _ (looks_ofExcept _) (fun _ => looks_pure _) _
  · right
    refine ⟨failure,?_⟩
    rw [run_bind,failed]

end Reading

section Layers

/-- The settings file of the user in a home directory. -/
def userPath (home : Path) : Path := home / ".config" / "l2wp" / "config.toml"

/-- The settings file of the working directory. -/
def projectPath (files : FileTree) : Path := files.currentPath / ".l2wp.toml"

/-- Both settings files can be read; they hold these tables. -/
structure Layers (home : Path) (user project : Table Value) : Prop where
  found : homeDirectory w.environment = .ok home
  user : readFile w.files (userPath home) = .ok user
  project : readFile w.files (projectPath w.files) = .ok project

theorem ask_success {α : Type} (question : FileTree → Except Fault α) (a : α)
    (ok : (Work.ask question).run.run w = (.ok a,w')) : question w.files = .ok a ∧ w' = w := by
  rw [Work.ask_run] at ok
  cases answer : question w.files <;> rw [answer] at ok <;> cases ok
  exact ⟨rfl,rfl⟩

theorem isFile_readFile (files : FileTree) (file : Path) (data : Table Value) (ok : readFile files file = .ok data) :
    ∃ there, files.isFile file = .ok there := by
  obtain ⟨there,asked,_⟩ := except_bind_success _ _ _ ok
  exact ⟨there,asked⟩

theorem present_run (file : Path) (there : Bool) (asked : w.files.isFile file = .ok there) :
    (Work.ask (present? · file)).run.run w = (.ok (if there then some file else none),w) := by
  rw [Work.ask_run]
  simp only [present?,asked,bind,Except.bind,pure,Except.pure,Except.mapError]

variable {w} in
theorem userFile_run (home : Path) (found : homeDirectory w.environment = .ok home) :
    userFile.run.run w = (.ok (userPath home),w) := by
  unfold userFile
  rw [run_bind,run_get]
  dsimp only
  rw [found]
  rfl

theorem userFile_success (file : Path) (ok : userFile.run.run w = (.ok file,w')) :
    ∃ home, homeDirectory w.environment = .ok home ∧ file = userPath home ∧ w' = w := by
  cases found : homeDirectory w.environment with
  | ok home =>
    rw [userFile_run home found] at ok
    cases ok
    exact ⟨home,rfl,rfl,rfl⟩
  | error fault =>
    unfold userFile at ok
    rw [run_bind,run_get] at ok
    dsimp only at ok
    rw [found] at ok
    cases ok

theorem layers_of_refresh (ok : refresh.run.run w = (.ok now,w')) : ∃ home user project, Layers w home user project ∧
    now.data = resolve user project w.environment := by
  obtain ⟨file,w₁,located,rest₁⟩ := run_bind_success _ _ _ _ _ ok
  obtain ⟨home,found,rfl,rfl⟩ := userFile_success _ _ _ located
  obtain ⟨user,w₂,read,rest₂⟩ := run_bind_success _ _ _ _ _ rest₁
  obtain ⟨userRead,rfl⟩ := ask_success _ _ _ _ read
  obtain ⟨_,w₃,located,rest₃⟩ := run_bind_success _ _ _ _ _ rest₂
  cases located
  obtain ⟨project,w₄,read,rest₄⟩ := run_bind_success _ _ _ _ _ rest₃
  obtain ⟨projectRead,rfl⟩ := ask_success _ _ _ _ read
  obtain ⟨seen,w₅,got,rest₅⟩ := run_bind_success _ _ _ _ _ rest₄
  cases got
  obtain ⟨_,w₆,_,rest₆⟩ := run_bind_success _ _ _ _ _ rest₅
  obtain ⟨_,w₇,_,rest₇⟩ := run_bind_success _ _ _ _ _ rest₆
  obtain ⟨_,w₈,changed,rest₈⟩ := run_bind_success _ _ _ _ _ rest₇
  cases changed
  cases rest₈
  exact ⟨home,user,project,⟨found,userRead,projectRead⟩,rfl⟩

/-- Settings that are remembered, if any are, are what the layers make. -/
def Current (w : Workspace) (user project : Table Value) : Prop :=
  ∀ now, w.settings = some now → now.data = resolve user project w.environment

variable {w} {home : Path} {user project : Table Value}

theorem current_fresh (fresh : w.settings = none) : Current w user project := by
  intro now known
  rw [fresh] at known
  cases known

variable (layers : Layers w home user project)
include layers

theorem refresh_layers : ∃ now, refresh.run.run w = (.ok now,{ w with settings := some now }) ∧
    now.data = resolve user project w.environment := by
  obtain ⟨userThere,userAsked⟩ := isFile_readFile _ _ _ layers.user
  obtain ⟨projectThere,projectAsked⟩ := isFile_readFile _ _ _ layers.project
  have file : projectFile.run.run w = (.ok (projectPath w.files),w) := rfl
  have userAsk := present_run w (userPath home) userThere userAsked
  have projectAsk := present_run w (projectPath w.files) projectThere projectAsked
  refine ⟨⟨resolve user project w.environment,if userThere then some (userPath home) else none,
    if projectThere then some (projectPath w.files) else none⟩,?_,rfl⟩
  unfold refresh
  rw [run_bind,userFile_run home layers.found]
  dsimp only
  rw [run_bind,Work.ask_run,layers.user]
  dsimp only [Except.mapError]
  rw [run_bind,file]
  dsimp only
  rw [run_bind,Work.ask_run,layers.project]
  dsimp only [Except.mapError]
  rw [run_bind,run_get]
  dsimp only
  rw [run_bind,userAsk]
  dsimp only
  rw [run_bind,projectAsk]
  rfl

theorem get_layers (current : Current w user project) : ∃ now, now.data = resolve user project w.environment ∧
    ∀ key default, (get key default).run.run w =
      (.ok (getD (.object (resolve user project w.environment)) key default),{ w with settings := some now }) := by
  cases known : w.settings with
  | some now =>
    refine ⟨now,current now known,fun key default => ?_⟩
    rw [get_known w now key default known,current now known,← known]
  | none =>
    obtain ⟨now,ran,data⟩ := refresh_layers layers
    refine ⟨now,data,fun key default => ?_⟩
    unfold get resolved
    rw [run_bind,run_bind,run_get]
    dsimp only
    rw [known]
    dsimp only
    rw [ran,← data]
    rfl

end Layers

section Home

/-- A home directory that is the working directory as well, with a settings file of the user. -/
def homeWorkspace (fields : Table Value) (environment : Table String) : Workspace :=
  .start ⟨[(["home"],.directory),(["home",".config"],.directory),(["home",".config","l2wp"],.directory),
    (["home",".config","l2wp","config.toml"],.file (.document .toml (.object fields)))],["home"]⟩
    (("HOME","/home") :: environment) ⟨1,["tmp"]⟩ 0.0

theorem homeWorkspace_layers (fields : Table Value) (environment : Table String) :
    Layers (homeWorkspace fields environment) ⟨1,["home"]⟩ ((Toml.arranged (.object fields)).fields?.getD []) [] := by
  refine ⟨rfl,?_,?_⟩
  · simp only [readFile,FileTree.isFile,FileTree.look,FileTree.read,FileTree.locate_chars]
    rfl
  · simp only [readFile,FileTree.isFile,FileTree.look,FileTree.read,FileTree.locate_chars]
    rfl

end Home

end Pagewright.Settings
