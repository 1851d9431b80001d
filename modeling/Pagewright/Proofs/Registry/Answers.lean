import Pagewright.Proofs.Faults
import Pagewright.Proofs.Registry.Steps

/-! Questions that a registry file answers and those that it leaves open. The file is loaded first, and what is asked
of the loaded sections is refused with faults only, so a refusal in words of its own means that the file cannot be read.
Nothing is active that is not there, and where the plugins, their states and the pro tier are tables every question has
an answer. -/
namespace Pagewright.Host.RegistryFile

theorem activeIn_silent (data : Table Value) (slug : String) : Silent (activeIn data slug) := by
  refine silent_bind _ _ (silent_lift _) fun first => ?_
  cases first with
  | none => exact silent_ok false
  | some path => exact silent_bind _ _ (silent_lift _) fun state => silent_lift _

/-- Whether the pro tier is active, in loaded sections. -/
def proIn (data : Table Value) : Except Failure Bool := do
  let defined ← (sectionOf data "pro").findD "defined" (.bool false)
  let active ← (sectionOf data "pro").findD "active" (.bool false)
  return defined.isTruthy && active.isTruthy

theorem proIn_silent (data : Table Value) : Silent (proIn data) :=
  silent_bind _ _ (silent_lift _) fun _ => silent_bind _ _ (silent_lift _) fun _ => silent_ok _

variable (r : RegistryFile) (files : FileTree)

theorem proActive_split : r.proActive files = r.load files >>= proIn := rfl

theorem load_present (present : files.isFile r.path = .ok true) : r.load files =
    match (files.read r.path).bind Content.yaml with
    | .ok data => (liftM ((data.orElse (.object [])).fieldsFor "setdefault") : Except Failure (Table Value)) >>=
      fun fields => .ok (withSections fields)
    | .error (.notYaml message) => .error (r.unreadable (.notYaml message))
    | .error fault => .error (if fault.isFile then r.unreadable fault else .fault fault) := by
  unfold load
  rw [present]
  rfl

theorem load_refused (failure : Failure) (refused : r.load files = .error failure)
    (reported : failure.isReported = true) : ∃ cause, failure = r.unreadable cause := by
  cases present : files.isFile r.path with
  | error fault =>
    unfold load at refused
    rw [present] at refused
    cases refused
    cases reported
  | ok there =>
    cases there with
    | false =>
      unfold load at refused
      rw [present] at refused
      cases refused
    | true =>
      rw [r.load_present files present] at refused
      split at refused
      · have silent := silent_bind _ _ (silent_lift _) (fun fields => silent_ok (withSections fields)) failure refused
        cases silent.symm.trans reported
      · cases refused
        exact ⟨_,rfl⟩
      · cases refused
        split at reported
        · exact ⟨_,if_pos ‹_›⟩
        · cases reported

/-- The registry cannot be read. -/
def Unreadable : Prop := ∃ cause, r.load files = .error (r.unreadable cause)

theorem unreadable_text (content : Content) (place : Place) (message : String)
    (located : files.locate r.path = .ok place) (standing : files.find? place = some (.file content))
    (malformed : content.yaml = .error (.notYaml message)) : r.Unreadable files := by
  refine ⟨.notYaml message,?_⟩
  rw [r.load_present files (FileTree.isFile_standing files _ _ _ located standing),
    FileTree.read_standing files _ _ _ located standing]
  have decoded : (Except.ok content).bind Content.yaml = .error (.notYaml message) := malformed
  rw [decoded]

section Questions

variable {α : Type} (answer : Table Value → Except Failure α)

theorem question_refused (silent : ∀ data, Silent (answer data)) (readable : ¬ r.Unreadable files) :
    Silent (r.load files >>= answer) := by
  intro failure refused
  cases loaded : r.load files with
  | ok data => rw [loaded] at refused; exact silent data failure refused
  | error reason =>
    rw [loaded] at refused
    cases refused
    by_contra reported
    obtain ⟨cause,rfl⟩ := r.load_refused files _ loaded (eq_true_of_ne_false reported)
    exact readable ⟨cause,loaded⟩

end Questions

end Pagewright.Host.RegistryFile

namespace Pagewright.Host.RegistryFile

/-- Sections in which every question has an answer. -/
structure Tabular (data : Table Value) : Prop where
  plugins : ∃ plugins : Table Value, sectionOf data "plugins" = .object plugins ∧
    ∀ path state, plugins.get? path = some state → (state.orElse (.object [])).isObject = true
  pro : ∃ fields, sectionOf data "pro" = .object fields

theorem emptyRegistry_tabular : Tabular emptyRegistry where
  plugins := ⟨[],rfl,fun _ _ found => by cases found⟩
  pro := ⟨_,rfl⟩

variable (r : RegistryFile) (slug : String) (files : FileTree)

theorem isInstalled_of_isActive (active : r.isActive slug files = .ok true) :
    r.isInstalled slug files = .ok true := by
  obtain ⟨data,loaded,active⟩ := (r.isActive_iff slug files).mp active
  obtain ⟨path,_,_,found,_⟩ := (activeIn_iff data slug).mp active
  exact (r.isInstalled_iff slug files).mpr ⟨data,path,loaded,found⟩

theorem proDefined_loaded (data : Table Value) (loaded : r.load files = .ok data) : r.proDefined files =
    (liftM ((sectionOf data "pro").findD "defined" (.bool false)) : Except Failure Value).map Value.isTruthy := by
  unfold proDefined
  rw [loaded]
  show (liftM ((sectionOf data "pro").findD "defined" (.bool false)) >>= fun v => Except.ok v.isTruthy :
    Except Failure Bool) = _
  cases (sectionOf data "pro").findD "defined" (.bool false) <;> rfl

theorem proDefined_of_proActive (active : r.proActive files = .ok true) : r.proDefined files = .ok true := by
  obtain ⟨data,loaded,asked⟩ := except_bind_success _ _ _ active
  obtain ⟨defined,found,asked⟩ := except_bind_success _ _ _ asked
  obtain ⟨activated,_,asked⟩ := except_bind_success _ _ _ asked
  have both : defined.isTruthy && activated.isTruthy := Except.ok.inj asked
  rw [r.proDefined_loaded files data loaded,found,← (Bool.and_eq_true_iff.mp both).1]
  rfl

section Tables

variable {r} {files} {data : Table Value} (loaded : r.load files = .ok data) (tabular : Tabular data)
include loaded tabular

theorem Tabular.isInstalled : ∃ answer, r.isInstalled slug files = .ok answer := by
  obtain ⟨plugins,table,_⟩ := tabular.plugins
  exact ⟨_,r.isInstalled_loaded slug files data _ loaded (pathIn_object data plugins slug table)⟩

theorem Tabular.isActive : ∃ answer, r.isActive slug files = .ok answer := by
  obtain ⟨plugins,table,states⟩ := tabular.plugins
  have found := pathIn_object data plugins slug table
  rw [r.isActive_loaded slug files data loaded]
  cases first : matchPluginPath plugins.keys slug with
  | none => exact ⟨_,activeIn_missing data slug (found.trans (congrArg _ first))⟩
  | some path =>
    obtain ⟨state,entry⟩ := (Table.mem_keys_iff plugins path).mp (mem_keys_of_match plugins slug path first)
    obtain ⟨fields,shape⟩ : ∃ fields, state.orElse (.object []) = .object fields := by
      have shape := states path state entry
      cases given : state.orElse (.object []) with
      | object fields => exact ⟨fields,rfl⟩
      | _ => rw [given] at shape; cases shape
    have answered : activeEntry state = .ok ((Table.get? fields "active").getD (.bool false)).isTruthy := by
      unfold activeEntry
      rw [shape,findD_object]
      rfl
    exact ⟨_,activeIn_entry data plugins slug path state _ (found.trans (congrArg _ first)) table entry answered⟩

theorem Tabular.proDefined : ∃ answer, r.proDefined files = .ok answer := by
  obtain ⟨fields,table⟩ := tabular.pro
  rw [r.proDefined_loaded files data loaded,table,findD_object]
  exact ⟨_,rfl⟩

theorem Tabular.proActive : ∃ answer, r.proActive files = .ok answer := by
  obtain ⟨fields,table⟩ := tabular.pro
  unfold RegistryFile.proActive
  rw [loaded]
  dsimp only [bind,Except.bind]
  rw [table,findD_object,findD_object]
  exact ⟨_,rfl⟩

end Tables

end Pagewright.Host.RegistryFile
