import Pagewright.Proofs.Registry.Steps

/-! Slugs installed and activated one after the other. A slug goes through with its plugin active, or it is
refused; what is refused once is refused again, unless another slug has brought an active plugin of it. -/
namespace Pagewright.Host.RegistryFile

variable (r : RegistryFile)

section Saving

variable (data : Table Value) (files files' : FileTree)

/-- Whether sections can be saved; it does not matter which. -/
def Writable : Prop := ∃ data files', r.save data files = .ok files'

theorem save_any (writable : r.Writable files) : ∃ files', r.save data files = .ok files' := by
  obtain ⟨other,files',saved⟩ := writable
  obtain ⟨made,making,written⟩ := except_bind_success _ _ _ saved
  obtain ⟨located,noDirectory,_⟩ := FileTree.write_success made files' _ _ written
  exact ⟨_,r.save_made data files made _ making located noDirectory⟩

theorem writable_saved (saved : r.save data files = .ok files') : r.Writable files' := by
  obtain ⟨made,making,written⟩ := except_bind_success _ _ _ saved
  obtain ⟨_,leads⟩ := FileTree.makeDirectories_success files made _ making
  obtain ⟨located,standing⟩ := FileTree.write_leads made files' _ _ written
  obtain ⟨_,noDirectory,put⟩ := FileTree.write_success made files' _ _ written
  have nonempty : FileTree.destination made.current r.path ≠ [] := by
    intro root
    rw [root] at noDirectory
    exact noDirectory rfl
  have still := FileTree.leads_put made _ _ (.file (.document .yaml (.object data))) nonempty noDirectory leads
  rw [← put] at still
  have made' : files'.makeDirectories r.path.parent = .ok files' :=
    FileTree.makeDirectoriesWithin_standing files' _ _ still
  exact ⟨data,_,r.save_made data files' files' _ made' located (by rw [standing]; nofun)⟩

end Saving

/-- What can become of the files while slugs are installed and activated: new plugins are active in the
end, and where nothing can be saved nothing changes. -/
structure Settles (before after : FileTree) : Prop where
  grows : r.Grows IsActive before after
  still : ¬ r.Writable before → after = before

theorem settles_refl (files : FileTree) : r.Settles files files :=
  ⟨r.grows_refl IsActive files,fun _ => rfl⟩

theorem settles_trans (first second third : FileTree) (one : r.Settles first second)
    (two : r.Settles second third) : r.Settles first third where
  grows := r.grows_trans IsActive (fun _ => id) first second third one.grows two.grows
  still closed := by
    obtain rfl := one.still closed
    exact two.still closed

/-- A path that is found later on and was not there before is that of an active plugin. -/
theorem extends_new {fresh : Value → Prop} {plugins later : Table Value}
    (grown : Extends fresh plugins later) (path : String) (absent : path ∉ plugins.keys) (state : Value)
    (found : later.get? path = some state) : fresh state := by
  induction grown with
  | more new all =>
    obtain ⟨_,_,member⟩ := List.lookup_eq_some_iff.mp found
    exact all (path,state) (by simp [member])
  | plugin name old new rest later _ _ ih =>
    have different : name ≠ path := fun same => absent (same ▸ List.mem_cons_self)
    rw [Table.get?_cons,if_neg different] at found
    exact ih (fun known => absent (List.mem_cons_of_mem name known)) found

/-- The plugins section with a slug installed, unless the slug is refused. -/
def withInstalled (data : Table Value) (slug : String) : Except Failure Value := do
  if ← isListed slug (sectionOf data "unavailable") then
    throw (.collaborator s!"Plugin '{slug}' could not be downloaded" "file" none [("slug", .str slug)])
  return ← withField (sectionOf data "plugins") (ownPath slug) inactive

section Missing

variable (slug : String) (files : FileTree) (data : Table Value)

theorem installed_missing (loaded : r.load files = .ok data) (missing : pathIn data slug = .ok none) :
    r.installed slug files =
      (withInstalled data slug >>= fun plugins => liftM (r.save (data.put "plugins" plugins) files)) := by
  unfold installed withInstalled
  rw [loaded]
  show ((liftM (pathIn data slug) : Except Failure _) >>= _) = _
  rw [missing]
  show ((liftM (isListed slug (sectionOf data "unavailable")) : Except Failure _) >>= _) = _
  cases isListed slug (sectionOf data "unavailable") with
  | error fault => rfl
  | ok listed => cases listed <;> rfl

/-- A slug that is refused is refused by the sections later on. -/
theorem withInstalled_grown (fresh : Value → Prop) (later : Table Value) (grown : Grown fresh data later)
    (failure : Failure) (refused : withInstalled data slug = .error failure) :
    withInstalled later slug = .error failure := by
  unfold withInstalled at refused ⊢
  rw [grown.unavailable]
  rcases grown.plugins with same | ⟨plugins,plugins',table,table',_⟩
  · rw [same]
    exact refused
  · rw [table] at refused
    rw [table']
    cases listed : isListed slug (sectionOf data "unavailable") with
    | error fault => rw [listed] at refused; exact refused
    | ok answer =>
      rw [listed] at refused
      cases answer with
      | true => exact refused
      | false => cases refused

theorem not_installed (missing : r.isInstalled slug files = .ok false) :
    ∃ data, r.load files = .ok data ∧ pathIn data slug = .ok none := by
  obtain ⟨first,found,none⟩ := except_bind_success _ _ _ missing
  obtain ⟨data,loaded,found⟩ := except_bind_success _ _ _ found
  cases first with
  | some path => cases none
  | none => exact ⟨data,loaded,lift_success _ _ found⟩

theorem missing_answers (loaded : r.load files = .ok data) (missing : pathIn data slug = .ok none) :
    r.isInstalled slug files = .ok false ∧ r.isActive slug files = .ok false := by
  rw [r.isInstalled_loaded slug files data none loaded missing,r.isActive_loaded slug files data loaded]
  exact ⟨rfl,activeIn_missing data slug missing⟩

end Missing

/-- A slug without path has none later on, or one of an active plugin. -/
theorem missing_later (data data' : Table Value) (grown : Grown IsActive data data') (slug : String)
    (missing : pathIn data slug = .ok none) :
    pathIn data' slug = .ok none ∨ activeIn data' slug = .ok true := by
  rcases grown.plugins with same | ⟨plugins,plugins',table,table',further⟩
  · left
    unfold pathIn at missing ⊢
    rw [same]
    exact missing
  · have found := pathIn_object data' plugins' slug table'
    cases first : matchPluginPath (Table.keys plugins') slug with
    | none =>
      left
      rw [found,first]
    | some path =>
      right
      rw [first] at found
      have own : belongsTo slug path = true := List.find?_some first
      have new : path ∉ Table.keys plugins := by
        intro known
        rw [pathIn_none data plugins slug table missing path known] at own
        cases own
      obtain ⟨state,standing⟩ := (Table.mem_keys_iff plugins' path).mp (mem_keys_of_match _ _ _ first)
      exact (activeIn_iff data' slug).mpr
        ⟨path,plugins',state,found,table',standing,extends_new further path new state standing⟩

/-- Where sections can be saved, an installation is refused by the sections that are there. -/
theorem refused_by_sections (slug : String) (files : FileTree) (data : Table Value)
    (loaded : r.load files = .ok data) (missing : pathIn data slug = .ok none)
    (writable : r.Writable files) (failure : Failure) (refused : r.installed slug files = .error failure) :
    withInstalled data slug = .error failure := by
  rw [r.installed_missing slug files data loaded missing] at refused
  cases change : withInstalled data slug with
  | error reason =>
    rw [change] at refused
    have same : reason = failure := Except.error.inj refused
    rw [same]
  | ok plugins =>
    obtain ⟨files',saved⟩ := r.save_any (data.put "plugins" plugins) files writable
    rw [change] at refused
    change (liftM (r.save (data.put "plugins" plugins) files) : Except Failure _) = _ at refused
    rw [saved] at refused
    cases refused

/-- An installation that was refused is refused again, unless a plugin of the slug has become active. -/
theorem refused_installed (slug : String) (files later : FileTree) (settles : r.Settles files later)
    (missing : r.isInstalled slug files = .ok false) (failure : Failure)
    (refused : r.installed slug files = .error failure) : r.isActive slug later = .ok true ∨
      (r.isActive slug later = .ok false ∧ r.isInstalled slug later = .ok false ∧
        r.installed slug later = .error failure) := by
  obtain ⟨data,loaded,free⟩ := r.not_installed slug files missing
  by_cases writable : r.Writable files
  · have blocked := r.refused_by_sections slug files data loaded free writable failure refused
    obtain ⟨data',loaded',grown⟩ := settles.grows data loaded
    rcases missing_later data data' grown slug free with free' | active
    · right
      obtain ⟨absent,inactive⟩ := r.missing_answers slug later data' loaded' free'
      refine ⟨inactive,absent,?_⟩
      rw [r.installed_missing slug later data' loaded' free',
        withInstalled_grown slug data IsActive data' grown failure blocked]
      rfl
    · exact Or.inl ((r.isActive_iff slug later).mpr ⟨data',loaded',active⟩)
  · obtain rfl := settles.still writable
    obtain ⟨absent,inactive⟩ := r.missing_answers slug later data loaded free
    exact Or.inr ⟨inactive,absent,refused⟩

section Entries

variable (slug : String) (files : FileTree)

/-- An installed slug that is not active can be activated wherever sections can be saved. -/
theorem activated_writable (writable : r.Writable files) (there : r.isInstalled slug files = .ok true)
    (inactive : r.isActive slug files = .ok false) : ∃ files', r.activated slug files = .ok files' := by
  obtain ⟨data,path,loaded,found⟩ := (r.isInstalled_iff slug files).mp there
  rw [r.isActive_loaded slug files data loaded] at inactive
  rcases activeIn_success data slug false inactive with ⟨missing,_⟩ | ⟨first,plugins,state,found',table,standing,off⟩
  · rw [found] at missing
    cases missing
  · obtain ⟨fields,entry,unmarked⟩ := activeEntry_success state false off
    obtain ⟨files',saved⟩ := r.save_any (data.put "plugins" (.object
      (plugins.put first (.object (fields.put "active" (.bool true)))))) files writable
    refine ⟨files',?_⟩
    rw [r.activated_entry slug files data plugins first state fields loaded found' table standing entry,
      if_neg (by rw [unmarked]; nofun),saved]
    rfl

theorem settles_activated (files' : FileTree) (ok : r.activated slug files = .ok files') :
    r.Settles files files' where
  grows := (r.activate_step IsActive slug files files' ok).1
  still closed := by
    obtain ⟨data,path,_,_,⟨_,same⟩ | ⟨_,_,_,_,_,saved⟩⟩ := r.activated_success slug files files' ok
    · exact same
    · exact absurd ⟨_,_,saved⟩ closed

end Entries

/-- A slug without path finds its own one once it is installed. -/
theorem pathIn_installed (data plugins : Table Value) (slug : String) (state : Value)
    (table : sectionOf data "plugins" = .object plugins) (missing : pathIn data slug = .ok none) :
    pathIn (data.put "plugins" (.object (plugins.put (ownPath slug) state))) slug = .ok (some (ownPath slug)) := by
  obtain ⟨first,found⟩ := pathIn_put data plugins slug (ownPath slug) state (belongsTo_ownPath slug)
  rw [found]
  rw [pathIn_object _ _ _ (sectionOf_put_self _ _ _)] at found
  have matched := Except.ok.inj found
  rcases (Table.mem_keys_put plugins _ first _).mp (mem_keys_of_match _ _ _ matched) with own | known
  · rw [own]
  · have own : belongsTo slug first = true := List.find?_some matched
    rw [pathIn_none data plugins slug table missing first known] at own
    cases own

/-- The sections after an installation and an activation have grown by an active plugin. -/
theorem grown_installed (data plugins : Table Value) (slug : String) (state : Value)
    (table : sectionOf data "plugins" = .object plugins)
    (active : IsActive state) : Grown IsActive data
      ((data.put "plugins" (.object (plugins.put (ownPath slug) inactive))).put "plugins"
        (.object ((plugins.put (ownPath slug) inactive).put (ownPath slug) state))) := by
  rw [Table.put_put,Table.put_put]
  exact grown_put IsActive data plugins (ownPath slug) state table (fun _ => active) (fun _ => active)

/-- A slug that was not there and is installed can be activated, and then its new plugin is active. -/
theorem installed_then_activated (slug : String) (files middle : FileTree)
    (missing : r.isInstalled slug files = .ok false) (ok : r.installed slug files = .ok middle) :
    r.isActive slug middle = .ok false ∧ r.isInstalled slug middle = .ok true ∧
      ∃ files', r.activated slug middle = .ok files' ∧ r.Settles files files' := by
  obtain ⟨data,loaded,free⟩ := r.not_installed slug files missing
  obtain ⟨again,reloaded,⟨⟨path,found⟩,_⟩ | ⟨plugins,table,_,_,saved⟩⟩ := r.installed_success slug files middle ok
  · obtain rfl : data = again := Except.ok.inj (loaded.symm.trans reloaded)
    rw [free] at found
    cases found
  · obtain rfl : data = again := Except.ok.inj (loaded.symm.trans reloaded)
    have complete := r.load_complete files data loaded
    have there := (r.install_step AnyState slug files middle trivial ok).2
    have loaded' := r.load_saved files middle _ (complete_put data complete _) saved
    have found := pathIn_installed data plugins slug inactive table free
    have off : r.isActive slug middle = .ok false := by
      rw [r.isActive_loaded slug middle _ loaded']
      exact activeIn_entry _ _ slug _ inactive false found (sectionOf_put_self _ _ _)
        (Table.get?_put_self _ _ _) rfl
    obtain ⟨files',activated⟩ := r.activated_writable slug middle (r.writable_saved _ files middle saved)
      there off
    refine ⟨off,there,files',activated,?_,fun closed => absurd ⟨_,_,saved⟩ closed⟩
    intro old loadedOld
    obtain rfl : data = old := Except.ok.inj (loaded.symm.trans loadedOld)
    obtain ⟨data',path,reloaded',found',⟨on,_⟩ | ⟨plugins',state,table',_,on,saved'⟩⟩ :=
      r.activated_success slug middle files' activated
    · rw [r.isActive_loaded slug middle _ reloaded',on] at off
      cases off
    · obtain rfl := Except.ok.inj (loaded'.symm.trans reloaded')
      obtain rfl := Value.object.inj ((sectionOf_put_self _ _ _).symm.trans table')
      obtain rfl := Option.some.inj (Except.ok.inj (found.symm.trans found'))
      have complete' := r.load_complete middle _ loaded'
      exact ⟨_,r.load_saved middle files' _ (complete_put _ complete' _) saved',
        grown_installed data plugins slug state table on⟩

end Pagewright.Host.RegistryFile
