import Pagewright.Proofs.Registry.Steps

/-! Sequences of installations and activations on a registry file. Every call that goes through lets the
sections grow, and a refused one changes nothing. -/
namespace Pagewright.Host.RegistryFile

variable (r : RegistryFile)

/-- A call that changes a registry. -/
inductive Call where
  | install (slug : String)
  | activate (slug : String)
deriving DecidableEq

/-- What a call gives, with the files that it leaves. -/
def perform : Call → FileTree → Except Failure Unit × FileTree
  | .install slug => r.registry.install slug
  | .activate slug => r.registry.activate slug

/-- The files after calls, refused ones included. -/
def run (calls : List Call) (files : FileTree) : FileTree :=
  calls.foldl (fun files call => (r.perform call files).2) files

/-- What a call is for. -/
def Holds (files : FileTree) : Call → Prop
  | .install slug => r.isInstalled slug files = .ok true
  | .activate slug => r.isActive slug files = .ok true

/-- A call is refused with nothing changed, or goes through with the sections grown and its purpose
reached. -/
theorem perform_cases (call : Call) (files : FileTree) :
    (∃ failure, r.perform call files = (.error failure,files)) ∨
      ∃ files', r.perform call files = (.ok (),files') ∧ r.Grows AnyState files files' ∧ r.Holds files' call := by
  cases call with
  | install slug =>
    unfold perform registry step
    dsimp only
    cases change : r.installed slug files with
    | error failure => exact Or.inl ⟨failure,rfl⟩
    | ok files' => exact Or.inr ⟨files',rfl,r.install_step AnyState slug files files' trivial change⟩
  | activate slug =>
    unfold perform registry step
    dsimp only
    cases change : r.activated slug files with
    | error failure => exact Or.inl ⟨failure,rfl⟩
    | ok files' => exact Or.inr ⟨files',rfl,r.activate_step AnyState slug files files' change⟩

theorem grows_perform (call : Call) (files : FileTree) : r.Grows AnyState files (r.perform call files).2 := by
  rcases r.perform_cases call files with ⟨failure,refused⟩ | ⟨files',done,grows,_⟩
  · rw [refused]
    exact r.grows_refl AnyState files
  · rw [done]
    exact grows

theorem grows_run (calls : List Call) (files : FileTree) : r.Grows AnyState files (r.run calls files) := by
  induction calls generalizing files with
  | nil => exact r.grows_refl AnyState files
  | cons call rest ih =>
    exact r.grows_trans AnyState (fun _ _ => trivial) _ _ _ (r.grows_perform call files)
      (ih (r.perform call files).2)

theorem grows_holds {before after : FileTree} (grows : r.Grows AnyState before after) (call : Call)
    (holds : r.Holds before call) : r.Holds after call := by
  cases call with
  | install slug => exact r.grows_isInstalled grows slug holds
  | activate slug => exact r.grows_isActive grows slug holds

/-- Once a call has reached its purpose, it changes nothing. -/
theorem perform_again (call : Call) (files : FileTree) (holds : r.Holds files call) :
    r.perform call files = (.ok (),files) := by
  cases call with
  | install slug =>
    unfold perform registry step
    dsimp only
    rw [r.installed_again slug files holds]
  | activate slug =>
    unfold perform registry step
    dsimp only
    rw [r.activated_again slug files holds]

/-- What stays of a registry: its plugins under their paths, the active ones active, what belongs to a
slug and the sections that calls do not write. -/
structure Keeps (before after : FileTree) : Prop where
  plugins : ∀ entries, r.plugins before = .ok entries → ∃ later, r.plugins after = .ok later ∧
    ∀ path state, (path,state) ∈ entries →
      ∃ new, (path,new) ∈ later ∧ (IsActive state → IsActive new)
  installed : ∀ slug, r.isInstalled slug before = .ok true → r.isInstalled slug after = .ok true
  active : ∀ slug, r.isActive slug before = .ok true → r.isActive slug after = .ok true
  sections : ∀ data, r.load before = .ok data → ∃ data', r.load after = .ok data' ∧
    sectionOf data' "pro" = sectionOf data "pro" ∧
    sectionOf data' "unavailable" = sectionOf data "unavailable"

theorem keeps_of_grows (before after : FileTree) (grows : r.Grows AnyState before after) :
    r.Keeps before after where
  plugins entries listed := by
    obtain ⟨data,loaded,listed⟩ := except_bind_success _ _ _ listed
    obtain ⟨data',loaded',grown⟩ := grows data loaded
    unfold plugins
    rw [loaded']
    rcases grown.plugins with same | ⟨old,new,table,table',further⟩
    · refine ⟨entries,?_,fun path state member => ⟨state,member,id⟩⟩
      rw [← same] at listed
      exact listed
    · have listed := lift_success _ _ listed
      rw [table] at listed
      cases listed
      refine ⟨new.map fun entry => (.str entry.1,entry.2),?_,?_⟩
      · show (liftM (sectionOf data' "plugins").toEntries : Except Failure _) = _
        rw [table']
        rfl
      · intro path state member
        obtain ⟨⟨name,value⟩,known,same⟩ := List.mem_map.mp member
        cases same
        obtain ⟨value',known',stays⟩ := extends_entry further name value known
        refine ⟨value',List.mem_map.mpr ⟨_,known',rfl⟩,fun active => ?_⟩
        rcases stays with rfl | active'
        · exact active
        · exact active'
  installed slug := r.grows_isInstalled grows slug
  active slug := r.grows_isActive grows slug
  sections data loaded := by
    obtain ⟨data',loaded',grown⟩ := grows data loaded
    exact ⟨data',loaded',grown.pro,grown.unavailable⟩

/-- How a call ends: a refused one leaves the files as they are, one that goes through reaches its
purpose, and then the same call changes nothing, however many others come between. -/
def Ends (call : Call) (files : FileTree) : Prop :=
  match r.perform call files with
  | (.error _,after) => after = files
  | (.ok (),after) => r.Holds after call ∧
      ∀ more, r.perform call (r.run more after) = (.ok (),r.run more after)

end Pagewright.Host.RegistryFile
