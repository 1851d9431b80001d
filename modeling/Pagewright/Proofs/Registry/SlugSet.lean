import Pagewright.Proofs.Registry.Calls
import Pagewright.Proofs.Registry.Settling

/-! When a registry answers as a set of slugs. Plugins are found by text: a path belongs to every slug
whose script name is part of it. So the slugs have to be apart from each other. -/
namespace Pagewright.Host.RegistryFile

/-- No script name of one slug is part of the script name of another one. -/
def Apart (slugs : String → Prop) : Prop :=
  ∀ slug other, slugs slug → slugs other →
    Text.occursIn (slug ++ ".php") (other ++ ".php") = true → slug = other

def Call.slug : Call → String
  | .install slug => slug
  | .activate slug => slug

variable (r : RegistryFile)

/-- The call, if it goes through. -/
def went (call : Call) (files : FileTree) : List Call :=
  match (r.perform call files).1 with
  | .ok () => [call]
  | .error _ => []

/-- The calls that go through, one after another. -/
def returned : List Call → FileTree → List Call
  | [],_ => []
  | call :: rest,files => r.went call files ++ returned rest (r.perform call files).2

/-- What the plugins are after calls for some slugs. -/
structure Records (slugs : String → Prop) (done : List Call) (plugins : Table Value) : Prop where
  paths : ∀ path ∈ plugins.keys, ∃ slug, slugs slug ∧ path = ownPath slug
  installed : ∀ slug, slugs slug → (ownPath slug ∈ plugins.keys ↔ .install slug ∈ done)
  active : ∀ slug, slugs slug → .activate slug ∈ done → .install slug ∈ done
  states : ∀ slug state, slugs slug → plugins.get? (ownPath slug) = some state →
    activeEntry state = .ok (decide (.activate slug ∈ done))

section Recording

variable (slugs : String → Prop) (plain : ∀ slug, slugs slug → '/' ∉ slug.toList) (done : List Call)
  (plugins : Table Value) (records : Records slugs done plugins)
include records

theorem records_congr (more : List Call) (same : ∀ call, call ∈ more ↔ call ∈ done) :
    Records slugs more plugins where
  paths := records.paths
  installed slug known := (records.installed slug known).trans (same _).symm
  active slug known called := (same _).mpr (records.active slug known ((same _).mp called))
  states slug state known standing := by
    rw [records.states slug state known standing]
    simp only [same]

theorem records_twice (call : Call) (called : call ∈ done) : Records slugs (done ++ [call]) plugins := by
  refine records_congr slugs done plugins records _ fun other => ?_
  rw [List.mem_append,List.mem_singleton]
  exact ⟨fun either => either.elim id fun same => same ▸ called,Or.inl⟩

theorem paths_put (slug : String) (known : slugs slug) (state : Value) :
    ∀ path ∈ (plugins.put (ownPath slug) state).keys, ∃ slug, slugs slug ∧ path = ownPath slug := by
  intro path member
  rcases (plugins.mem_keys_put _ path _).mp member with rfl | member
  · exact ⟨slug,known,rfl⟩
  · exact records.paths path member

include plain

omit records in
/-- What is put under the own path of a slug is read back for this slug alone. -/
theorem get?_put_own (slug other : String) (known : slugs slug) (knownOther : slugs other) (state : Value) :
    (plugins.put (ownPath slug) state).get? (ownPath other) =
      if other = slug then some state else plugins.get? (ownPath other) := by
  split
  next same => rw [same,Table.get?_put_self]
  next different =>
    refine Table.get?_put_of_ne _ _ fun same => different ?_
    exact ownPath_inj other slug (plain other knownOther) (plain slug known) same

theorem records_install (slug : String) (known : slugs slug) (new : .install slug ∉ done) :
    Records slugs (done ++ [.install slug]) (plugins.put (ownPath slug) inactive) where
  paths := paths_put slugs done plugins records slug known inactive
  installed other knownOther := by
    rw [Table.mem_keys_put,records.installed other knownOther,List.mem_append,List.mem_singleton,or_comm]
    refine or_congr_right ⟨fun same => ?_,fun same => ?_⟩
    · rw [ownPath_inj other slug (plain other knownOther) (plain slug known) same]
    · rw [Call.install.inj same]
  active other knownOther called := by
    rcases List.mem_append.mp called with before | last
    · exact List.mem_append_left _ (records.active other knownOther before)
    · cases List.mem_singleton.mp last
  states other state knownOther standing := by
    have called : (Call.activate other ∈ done ++ [.install slug]) ↔ .activate other ∈ done := by simp
    simp only [called]
    rw [get?_put_own slugs plain plugins slug other known knownOther] at standing
    split at standing
    next same =>
      cases standing
      rw [decide_eq_false fun called => new (same ▸ records.active other knownOther called)]
      rfl
    next => exact records.states other state knownOther standing

theorem records_activate (slug : String) (state : Value) (known : slugs slug)
    (installed : .install slug ∈ done) (active : IsActive state) :
    Records slugs (done ++ [.activate slug]) (plugins.put (ownPath slug) state) where
  paths := paths_put slugs done plugins records slug known state
  installed other knownOther := by
    have called : (Call.install other ∈ done ++ [.activate slug]) ↔ .install other ∈ done := by simp
    rw [Table.mem_keys_put,records.installed other knownOther,called]
    refine or_iff_right_of_imp fun same => ?_
    rw [ownPath_inj other slug (plain other knownOther) (plain slug known) same]
    exact installed
  active other knownOther called := by
    refine List.mem_append_left _ ?_
    rcases List.mem_append.mp called with before | last
    · exact records.active other knownOther before
    · rw [Call.activate.inj (List.mem_singleton.mp last)]
      exact installed
  states other old knownOther standing := by
    rw [get?_put_own slugs plain plugins slug other known knownOther] at standing
    split at standing
    next same =>
      cases standing
      rw [same,decide_eq_true (by simp)]
      exact active
    next different =>
      have called : (Call.activate other ∈ done ++ [.activate slug]) ↔ .activate other ∈ done := by
        simp [different]
      simp only [called]
      exact records.states other old knownOther standing

variable (apart : Apart slugs)
include apart

/-- A slug finds no other path than its own. -/
theorem match_records (slug : String) (known : slugs slug) : matchPluginPath plugins.keys slug =
    if .install slug ∈ done then some (ownPath slug) else none := by
  split
  next called =>
    have there := (records.installed slug known).mpr called
    cases found : matchPluginPath plugins.keys slug with
    | none => exact absurd (belongsTo_ownPath slug) (List.find?_eq_none.mp found _ there)
    | some path =>
      obtain ⟨other,knownOther,rfl⟩ := records.paths path (List.mem_of_find?_eq_some found)
      have part := (belongsTo_ownPath_iff slug other (plain slug known) (plain other knownOther)).mp
        (List.find?_some found)
      rw [apart slug other known knownOther part]
  next never =>
    refine List.find?_eq_none.mpr fun path member own => ?_
    obtain ⟨other,knownOther,rfl⟩ := records.paths path member
    have part := (belongsTo_ownPath_iff slug other (plain slug known) (plain other knownOther)).mp own
    obtain rfl := apart slug other known knownOther part
    exact never ((records.installed slug known).mp member)

end Recording

/-- The records of a registry file. -/
def Recorded (slugs : String → Prop) (done : List Call) (files : FileTree) : Prop :=
  ∃ data plugins, r.load files = .ok data ∧ sectionOf data "plugins" = .object plugins ∧
    Records slugs done plugins

theorem recorded_save (slugs : String → Prop) (done : List Call) (files files' : FileTree)
    (data plugins : Table Value) (loaded : r.load files = .ok data) (records : Records slugs done plugins)
    (saved : r.save (data.put "plugins" (.object plugins)) files = .ok files') :
    r.Recorded slugs done files' := by
  have complete := complete_put data (r.load_complete files data loaded) (.object plugins)
  exact ⟨_,plugins,r.load_saved files files' _ complete saved,sectionOf_put_self _ _ _,records⟩

section Answering

variable (slugs : String → Prop) (plain : ∀ slug, slugs slug → '/' ∉ slug.toList) (apart : Apart slugs)
  (done : List Call) (files : FileTree) (recorded : r.Recorded slugs done files)
include plain apart recorded

theorem recorded_isInstalled (slug : String) (known : slugs slug) :
    r.isInstalled slug files = .ok (decide (.install slug ∈ done)) := by
  obtain ⟨data,plugins,loaded,table,records⟩ := recorded
  rw [r.isInstalled_loaded slug files data _ loaded (pathIn_object data plugins slug table),
    match_records slugs plain done plugins records apart slug known]
  by_cases called : Call.install slug ∈ done <;> simp [called]

theorem recorded_isActive (slug : String) (known : slugs slug) :
    r.isActive slug files = .ok (decide (.activate slug ∈ done)) := by
  obtain ⟨data,plugins,loaded,table,records⟩ := recorded
  rw [r.isActive_loaded slug files data loaded]
  have found := pathIn_object data plugins slug table
  rw [match_records slugs plain done plugins records apart slug known] at found
  by_cases called : Call.install slug ∈ done
  · rw [if_pos called] at found
    obtain ⟨state,standing⟩ := (Table.mem_keys_iff plugins _).mp ((records.installed slug known).mpr called)
    exact activeIn_entry data plugins slug _ state _ found table standing
      (records.states slug state known standing)
  · rw [if_neg called] at found
    rw [activeIn_missing data slug found,decide_eq_false fun active => called (records.active slug known active)]

theorem recorded_install (slug : String) (known : slugs slug) (files' : FileTree)
    (ok : r.installed slug files = .ok files') : r.Recorded slugs (done ++ [.install slug]) files' := by
  have installed := r.recorded_isInstalled slugs plain apart done files recorded slug known
  obtain ⟨data,plugins,loaded,table,records⟩ := recorded
  obtain ⟨again,reloaded,⟨⟨path,found⟩,rfl⟩ | ⟨plugins',table',missing,_,saved⟩⟩ :=
    r.installed_success slug files files' ok
  · rw [r.isInstalled_loaded slug _ again _ reloaded found] at installed
    have called : Call.install slug ∈ done := of_decide_eq_true (Except.ok.inj installed).symm
    exact ⟨data,plugins,loaded,table,records_twice slugs done plugins records _ called⟩
  · rw [r.isInstalled_loaded slug _ again _ reloaded missing] at installed
    have new : Call.install slug ∉ done := of_decide_eq_false (Except.ok.inj installed).symm
    obtain rfl : data = again := Except.ok.inj (loaded.symm.trans reloaded)
    obtain rfl : plugins = plugins' := Value.object.inj (table.symm.trans table')
    exact r.recorded_save slugs _ files files' data _ loaded
      (records_install slugs plain done plugins records slug known new) saved

theorem recorded_activate (slug : String) (known : slugs slug) (files' : FileTree)
    (ok : r.activated slug files = .ok files') : r.Recorded slugs (done ++ [.activate slug]) files' := by
  have installed := r.recorded_isInstalled slugs plain apart done files recorded slug known
  have active := r.recorded_isActive slugs plain apart done files recorded slug known
  obtain ⟨data,plugins,loaded,table,records⟩ := recorded
  obtain ⟨again,path,reloaded,found,⟨on,rfl⟩ | ⟨plugins',state,table',_,on,saved⟩⟩ :=
    r.activated_success slug files files' ok
  · rw [r.isActive_loaded slug _ again reloaded,on] at active
    have called : Call.activate slug ∈ done := of_decide_eq_true (Except.ok.inj active).symm
    exact ⟨data,plugins,loaded,table,records_twice slugs done plugins records _ called⟩
  · rw [r.isInstalled_loaded slug _ again _ reloaded found] at installed
    have called : Call.install slug ∈ done := of_decide_eq_true (Except.ok.inj installed).symm
    obtain rfl : data = again := Except.ok.inj (loaded.symm.trans reloaded)
    obtain rfl : plugins = plugins' := Value.object.inj (table.symm.trans table')
    have matched := match_records slugs plain done plugins records apart slug known
    rw [pathIn_object _ _ _ table] at found
    rw [Except.ok.inj found,if_pos called] at matched
    rw [Option.some.inj matched] at saved
    exact r.recorded_save slugs _ files files' data _ loaded
      (records_activate slugs plain done plugins records slug state known called on) saved

/-- A call that goes through is recorded, and one that is refused changes nothing. -/
theorem recorded_step (call : Call) (known : slugs call.slug) :
    r.Recorded slugs (done ++ r.went call files) (r.perform call files).2 := by
  cases call with
  | install slug =>
    unfold went perform registry step
    dsimp only
    cases change : r.installed slug files with
    | error failure => simpa using recorded
    | ok files' => exact r.recorded_install slugs plain apart done files recorded slug known files' change
  | activate slug =>
    unfold went perform registry step
    dsimp only
    cases change : r.activated slug files with
    | error failure => simpa using recorded
    | ok files' => exact r.recorded_activate slugs plain apart done files recorded slug known files' change

end Answering

theorem recorded_run (slugs : String → Prop) (plain : ∀ slug, slugs slug → '/' ∉ slug.toList)
    (apart : Apart slugs) (calls : List Call) (known : ∀ call ∈ calls, slugs call.slug) (done : List Call)
    (files : FileTree) (recorded : r.Recorded slugs done files) :
    r.Recorded slugs (done ++ r.returned calls files) (r.run calls files) := by
  induction calls generalizing done files with
  | nil => rw [returned,List.append_nil]; exact recorded
  | cons call rest ih =>
    have step := r.recorded_step slugs plain apart done files recorded call (known call List.mem_cons_self)
    have next := ih (fun other member => known other (List.mem_cons_of_mem call member)) _ _ step
    rw [List.append_assoc] at next
    exact next

/-- Some slugs are a set that calls add to: in every registry that starts without plugins, those are
installed that were installed by a call and those active that were activated by a call, and no call
for one slug changes what is said of another one. -/
structure ActsAsSet (slugs : String → Prop) : Prop where
  answers : ∀ (r : RegistryFile) (files : FileTree) (data : Table Value) (calls : List Call),
    r.load files = .ok data → sectionOf data "plugins" = .object [] →
      (∀ call ∈ calls, slugs call.slug) → ∀ slug, slugs slug →
        r.isInstalled slug (r.run calls files) = .ok (decide (.install slug ∈ r.returned calls files)) ∧
        r.isActive slug (r.run calls files) = .ok (decide (.activate slug ∈ r.returned calls files))
  others : ∀ (r : RegistryFile) (files : FileTree) (data : Table Value) (calls : List Call) (call : Call),
    r.load files = .ok data → sectionOf data "plugins" = .object [] →
      (∀ call ∈ calls, slugs call.slug) → slugs call.slug → ∀ slug, slugs slug → slug ≠ call.slug →
        r.isInstalled slug (r.perform call (r.run calls files)).2 =
          r.isInstalled slug (r.run calls files) ∧
        r.isActive slug (r.perform call (r.run calls files)).2 = r.isActive slug (r.run calls files)

theorem went_of_ne (call other : Call) (files : FileTree) (different : other ≠ call) :
    other ∉ r.went call files := by
  unfold went
  split
  · simpa using different
  · exact List.not_mem_nil

theorem actsAsSet_of_apart (slugs : String → Prop) (plain : ∀ slug, slugs slug → '/' ∉ slug.toList)
    (apart : Apart slugs) : ActsAsSet slugs := by
  have reached : ∀ (r : RegistryFile) (files : FileTree) (data : Table Value) (calls : List Call),
      r.load files = .ok data → sectionOf data "plugins" = .object [] →
        (∀ call ∈ calls, slugs call.slug) →
          r.Recorded slugs (r.returned calls files) (r.run calls files) := by
    intro r files data calls loaded bare known
    refine r.recorded_run slugs plain apart calls known [] files ⟨data,[],loaded,bare,?_,?_,?_,?_⟩
    · exact fun path member => nomatch member
    · exact fun slug _ => iff_of_false List.not_mem_nil List.not_mem_nil
    · exact fun slug _ called => nomatch called
    · exact fun slug state _ standing => nomatch standing
  constructor
  · intro r files data calls loaded bare known slug knownSlug
    have recorded := reached r files data calls loaded bare known
    exact ⟨r.recorded_isInstalled slugs plain apart _ _ recorded slug knownSlug,
      r.recorded_isActive slugs plain apart _ _ recorded slug knownSlug⟩
  · intro r files data calls call loaded bare known knownCall slug knownSlug different
    have recorded := reached r files data calls loaded bare known
    have next := r.recorded_step slugs plain apart _ _ recorded call knownCall
    have noInstall := r.went_of_ne call (.install slug) (r.run calls files) fun same =>
      different (congrArg Call.slug same)
    have noActivate := r.went_of_ne call (.activate slug) (r.run calls files) fun same =>
      different (congrArg Call.slug same)
    rw [r.recorded_isInstalled slugs plain apart _ _ recorded slug knownSlug,
      r.recorded_isActive slugs plain apart _ _ recorded slug knownSlug,
      r.recorded_isInstalled slugs plain apart _ _ next slug knownSlug,
      r.recorded_isActive slugs plain apart _ _ next slug knownSlug]
    simp only [List.mem_append,noInstall,noActivate,or_false,and_self]

/-- The registry in the root directory. -/
def rootRegistry : RegistryFile := ⟨⟨1,["plugins.yaml"]⟩⟩

theorem rootRegistry_located (t : FileTree) : t.locate rootRegistry.path = .ok ["plugins.yaml"] :=
  FileTree.locate_child t ⟨1,[]⟩ "plugins.yaml" ⟨rfl,rfl⟩ ⟨by decide,by decide,by decide⟩

theorem rootRegistry_load (t : FileTree) (missing : t.find? ["plugins.yaml"] = none) :
    rootRegistry.load t = .ok emptyRegistry := by
  unfold load
  rw [FileTree.isFile_missing t _ _ (rootRegistry_located t) missing]
  rfl

theorem rootRegistry_save (t : FileTree) (data : Table Value)
    (noDirectory : t.find? ["plugins.yaml"] ≠ some .directory) : rootRegistry.save data t =
      .ok (t.put ["plugins.yaml"] (.file (.document .yaml (.object data)))) := by
  have made : t.makeDirectories rootRegistry.path.parent = .ok t :=
    FileTree.makeDirectoriesWithin_standing t 0 ⟨1,[]⟩ ⟨rfl,rfl⟩
  exact rootRegistry.save_made data t t _ made (rootRegistry_located t) noDirectory

/-- The first installation goes through. -/
theorem rootRegistry_installed (other : String) : ∃ files, rootRegistry.installed other .empty = .ok files ∧
    rootRegistry.load files =
      .ok (emptyRegistry.put "plugins" (.object (Table.put [] (ownPath other) inactive))) := by
  have missing : FileTree.empty.find? ["plugins.yaml"] = none := rfl
  have loaded := rootRegistry_load .empty missing
  have change := rootRegistry.installed_missing other .empty emptyRegistry loaded rfl
  have saved := rootRegistry_save .empty
    (emptyRegistry.put "plugins" (.object (Table.put [] (ownPath other) inactive))) (by rw [missing]; nofun)
  have complete := rootRegistry.load_complete .empty emptyRegistry loaded
  refine ⟨_,?_,rootRegistry.load_saved _ _ _ (complete_put _ complete _) saved⟩
  rw [change]
  show (liftM (rootRegistry.save _ .empty) : Except Failure FileTree) = _
  rw [saved]
  rfl

/-- The first installation installs all slugs that its path belongs to. -/
theorem rootRegistry_installs (other : String) : ∃ files,
    rootRegistry.perform (.install other) .empty = (.ok (),files) ∧
      ∀ slug, belongsTo slug (ownPath other) = true → rootRegistry.isInstalled slug files = .ok true := by
  obtain ⟨files,done,loaded⟩ := rootRegistry_installed other
  refine ⟨files,by unfold perform registry step; dsimp only; rw [done],fun slug own => ?_⟩
  obtain ⟨path,found⟩ := pathIn_put emptyRegistry [] slug (ownPath other) inactive own
  exact (rootRegistry.isInstalled_iff slug files).mpr ⟨_,path,loaded,found⟩

theorem apart_of_actsAsSet (slugs : String → Prop) (plain : ∀ slug, slugs slug → '/' ∉ slug.toList)
    (set : ActsAsSet slugs) : Apart slugs := by
  intro slug other known knownOther part
  obtain ⟨files,done,installs⟩ := rootRegistry_installs other
  have own := (belongsTo_ownPath_iff slug other (plain slug known) (plain other knownOther)).mpr part
  have alone : ∀ call ∈ [Call.install other], slugs call.slug := by
    intro call member
    rw [List.mem_singleton.mp member]
    exact knownOther
  have answer := (set.answers rootRegistry .empty emptyRegistry [.install other]
    (rootRegistry_load .empty rfl) rfl alone slug known).1
  simp only [run,List.foldl_cons,List.foldl_nil,returned,went,done] at answer
  rw [installs slug own] at answer
  have called := of_decide_eq_true (Except.ok.inj answer).symm
  simpa using called

end Pagewright.Host.RegistryFile
